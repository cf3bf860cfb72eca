import RuntimeHost.Abi.Status
import RuntimeHost.Foundation.BigEndian
import RuntimeHost.Foundation.Memory

namespace RuntimeHost.Abi

open Foundation Function MemoryProg

def tableHeaderSize : Nat := 8
def hmclBridgeAbiV1 : UInt32 := 1
def hmclHostApiV1PrefixSize : UInt32 := 64
def hmclPluginApiV1PrefixSize : UInt32 := 40

inductive Endian where
  | little
  | big

def Endian.fromNeBytes (encoded : List UInt8) : Endian → UInt32
  | .little => UInt32.ofNat (ofBigEndian encoded.reverse)
  | .big => UInt32.ofNat (ofBigEndian encoded)

def Endian.toNeBytes (value : UInt32) : Endian → List UInt8
  | .little => (bigEndian 4 value.toNat).reverse
  | .big => bigEndian 4 value.toNat

inductive Table where
  | host
  | outPlugin
  deriving DecidableEq

def isNull (pointer : UInt64) : Bool := pointer = 0

def isAligned (pointer : UInt64) : Bool := pointer % 8 = 0

structure TableHeader where
  structSize : UInt32
  abiVersion : UInt32
  deriving DecidableEq

section Decode

variable (endian : Endian)

def decodeStructSize (start : List UInt8) : Except HmclStatus UInt32 :=
  let encoded := start.take 4
  if encoded.length = 4 then .ok (endian.fromNeBytes encoded) else .error .bufferTooSmall

def decodeTableHeader (start : List UInt8) : Except HmclStatus TableHeader := do
  let structSize ← decodeStructSize endian start
  if structSize.toNat < tableHeaderSize then .error .bufferTooSmall
  else
    let encodedVersion := (start.drop 4).take (tableHeaderSize - 4)
    if encodedVersion.length = 4 then .ok ⟨structSize, endian.fromNeBytes encodedVersion⟩
    else .error .bufferTooSmall

def readTableHeader (table : Table) : MemoryProg Table (Except HmclStatus TableHeader) := do
  let sizePrefix ← read table 0 4
  match decodeStructSize endian sizePrefix with
  | .error status => return .error status
  | .ok structSize =>
    if structSize.toNat < tableHeaderSize then return .error .bufferTooSmall
    else return decodeTableHeader endian (← read table 0 tableHeaderSize)

/-- The bytes of `HmclPluginApiV1::with_required_prefix`: its header, and a null context and three absent callbacks. -/
def withRequiredPrefix : List UInt8 :=
  endian.toNeBytes hmclPluginApiV1PrefixSize ++ endian.toNeBytes hmclBridgeAbiV1 ++ List.replicate 32 0

def negotiatePluginApiV1 (host outPlugin : UInt64) : MemoryProg Table HmclStatus := do
  if isNull host ∨ isNull outPlugin ∨ ¬isAligned host ∨ ¬isAligned outPlugin then return .invalidArgument
  else
    match ← readTableHeader endian .host with
    | .error status => return status
    | .ok hostHeader =>
      match ← readTableHeader endian .outPlugin with
      | .error status => return status
      | .ok outputHeader =>
        if hostHeader.structSize < hmclHostApiV1PrefixSize ∨ outputHeader.structSize < hmclPluginApiV1PrefixSize then
          return .bufferTooSmall
        else if hostHeader.abiVersion ≠ hmclBridgeAbiV1 ∨ outputHeader.abiVersion ≠ hmclBridgeAbiV1 then
          return .unsupportedAbi
        else
          write .outPlugin 0 (withRequiredPrefix endian)
          return .ok

end Decode

section Advertised

variable (endian : Endian)

def advertised (table : List UInt8) : UInt32 := endian.fromNeBytes (table.take 4)

def abiVersion (table : List UInt8) : UInt32 := endian.fromNeBytes ((table.drop 4).take 4)

/-- The region has the first field, and all bytes that this advertises. -/
structure Readable (table : List UInt8) : Prop where
  size : 4 ≤ table.length
  complete : (advertised endian table).toNat ≤ table.length

def headerReads (memory : Memory Table) (table : Table) : List (Stretch Table) :=
  if (advertised endian (memory table)).toNat < tableHeaderSize then [⟨table, 0, 4⟩]
  else [⟨table, 0, 4⟩, ⟨table, 0, tableHeaderSize⟩]

variable {endian} {memory : Memory Table}

theorem decodeStructSize_take {table : List UInt8} {length : Nat} (long : 4 ≤ length) (inside : length ≤ table.length) :
    decodeStructSize endian (table.take length) = .ok (advertised endian table) := by
  simp only [decodeStructSize, advertised, List.take_take, Nat.min_eq_left long, List.length_take]
  rw [if_pos (by omega)]

theorem run_readTableHeader {table : Table} (readable : Readable endian (memory table)) :
    (readTableHeader endian table).run memory = some
      ⟨if (advertised endian (memory table)).toNat < tableHeaderSize then .error .bufferTooSmall
        else .ok ⟨advertised endian (memory table), abiVersion endian (memory table)⟩, memory,
        headerReads endian memory table⟩ := by
  obtain ⟨size, complete⟩ := readable
  unfold readTableHeader headerReads
  rw [run_read (by omega), List.drop_zero, decodeStructSize_take le_rfl size]
  by_cases short : (advertised endian (memory table)).toNat < tableHeaderSize
  · simp only [if_pos short]
    rfl
  · have long : tableHeaderSize ≤ (memory table).length := by omega
    have version : (((memory table).take tableHeaderSize).drop 4).take (tableHeaderSize - 4) =
        ((memory table).drop 4).take 4 := by
      rw [List.drop_take, List.take_take]
      rfl
    simp only [if_neg short]
    rw [run_read (by omega), List.drop_zero]
    have header : decodeTableHeader endian ((memory table).take tableHeaderSize) =
        .ok ⟨advertised endian (memory table), abiVersion endian (memory table)⟩ := by
      have whole : (((memory table).drop 4).take 4).length = 4 := by
        rw [List.length_take, List.length_drop]
        have eight : tableHeaderSize = 8 := rfl
        omega
      unfold decodeTableHeader
      rw [decodeStructSize_take (by decide) long, version]
      show (if _ then _ else _) = _
      rw [if_neg short]
      exact if_pos whole
    rw [header]
    rfl

end Advertised

section Negotiation

variable (endian : Endian) (memory : Memory Table)

def AcceptsHost (structSize abiVersion : UInt32) : Prop :=
  hmclHostApiV1PrefixSize ≤ structSize ∧ abiVersion = hmclBridgeAbiV1

def Spacious : Prop :=
  hmclHostApiV1PrefixSize ≤ advertised endian (memory .host) ∧
    hmclPluginApiV1PrefixSize ≤ advertised endian (memory .outPlugin)

def SameVersion : Prop :=
  abiVersion endian (memory .host) = hmclBridgeAbiV1 ∧ abiVersion endian (memory .outPlugin) = hmclBridgeAbiV1

instance : Decidable (Spacious endian memory) := inferInstanceAs (Decidable (_ ∧ _))
instance : Decidable (SameVersion endian memory) := inferInstanceAs (Decidable (_ ∧ _))

def negotiationReads : List (Stretch Table) :=
  headerReads endian memory .host ++
    if (advertised endian (memory .host)).toNat < tableHeaderSize then [] else headerReads endian memory .outPlugin

variable {endian} {memory} {host outPlugin : UInt64}

@[simp] theorem toNeBytes_length (value : UInt32) : (endian.toNeBytes value).length = 4 := by
  cases endian <;> simp [Endian.toNeBytes]

theorem withRequiredPrefix_length : (withRequiredPrefix endian).length = 40 := by
  simp [withRequiredPrefix]

theorem spacious_iff : Spacious endian memory ↔ ¬(advertised endian (memory .host) < hmclHostApiV1PrefixSize ∨
    advertised endian (memory .outPlugin) < hmclPluginApiV1PrefixSize) := by
  rw [not_or, UInt32.not_lt, UInt32.not_lt]
  rfl

theorem not_spacious_of_short {table : Table} (short : (advertised endian (memory table)).toNat < tableHeaderSize) :
    ¬Spacious endian memory := by
  rintro ⟨first, second⟩
  rw [UInt32.le_iff_toNat_le] at first second
  have eight : tableHeaderSize = 8 := rfl
  have sixtyFour : hmclHostApiV1PrefixSize.toNat = 64 := rfl
  have forty : hmclPluginApiV1PrefixSize.toNat = 40 := rfl
  cases table <;> omega

theorem run_negotiate (hostGiven : isNull host = false ∧ isAligned host = true)
    (outGiven : isNull outPlugin = false ∧ isAligned outPlugin = true)
    (readable : ∀ table, Readable endian (memory table)) :
    (negotiatePluginApiV1 endian host outPlugin).run memory = some
      ⟨if Spacious endian memory then if SameVersion endian memory then .ok else .unsupportedAbi else .bufferTooSmall,
        if Spacious endian memory ∧ SameVersion endian memory then
          update memory .outPlugin (withRequiredPrefix endian ++ (memory .outPlugin).drop 40)
        else memory, negotiationReads endian memory⟩ := by
  have given : ¬(isNull host ∨ isNull outPlugin ∨ ¬isAligned host ∨ ¬isAligned outPlugin) := by
    simp [hostGiven, outGiven]
  unfold negotiatePluginApiV1 negotiationReads
  rw [if_neg given, run_bind (run_readTableHeader (readable .host))]
  by_cases short : (advertised endian (memory .host)).toNat < tableHeaderSize
  · have narrow := not_spacious_of_short short
    simp only [if_pos short, narrow, false_and, if_false, run_pure, Option.map_some, MemoryOutcome.after]
  · simp only [if_neg short]
    rw [run_bind (run_readTableHeader (readable .outPlugin))]
    by_cases short' : (advertised endian (memory .outPlugin)).toNat < tableHeaderSize
    · have narrow := not_spacious_of_short short'
      simp only [if_pos short', narrow, false_and, if_false, run_pure, Option.map_some,
        MemoryOutcome.after, List.append_nil]
    · simp only [if_neg short']
      by_cases spacious : Spacious endian memory
      · rw [if_neg (spacious_iff.mp spacious)]
        by_cases same : SameVersion endian memory
        · rw [if_neg (by rw [not_or, not_not, not_not]; exact same)]
          have room : 40 ≤ (memory .outPlugin).length :=
            (UInt32.le_iff_toNat_le.mp spacious.2).trans (readable .outPlugin).complete
          rw [run_write (by rw [withRequiredPrefix_length]; omega), withRequiredPrefix_length]
          simp only [spacious, same, and_self, if_true, run_pure, Option.map_some, MemoryOutcome.after,
            List.append_nil, List.take_zero, List.nil_append, Nat.zero_add]
        · rw [if_pos (by rwa [← not_and_or])]
          simp only [spacious, same, and_false, if_true, if_false, run_pure, Option.map_some, MemoryOutcome.after,
            List.append_nil]
      · rw [if_pos (not_not.mp (mt spacious_iff.mpr spacious))]
        simp only [spacious, false_and, if_false, run_pure, Option.map_some, MemoryOutcome.after, List.append_nil]

end Negotiation

end RuntimeHost.Abi

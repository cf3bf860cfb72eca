import RuntimeHost.Abi.Negotiation
import RuntimeHost.Sdk.Error

namespace RuntimeHost.Sdk

open Foundation Abi Function MemoryProg

def validateHostHeader (structSize abiVersion : UInt32) : Except Error Unit :=
  if structSize < hmclHostApiV1PrefixSize then .error ⟨.invalidArgument⟩
  else if abiVersion ≠ hmclBridgeAbiV1 then .error ⟨.unavailable⟩
  else .ok ()

/-- What `initialize_inner` makes of its arguments: the status that it returns at once, or its copy of the host table. -/
def initializeArguments (endian : Endian) (context host : UInt64) :
    MemoryProg Table (Except HmclStatus (List UInt8)) := do
  if isNull context ∨ isNull host ∨ ¬isAligned host then return .error .invalidArgument
  else
    let size := endian.fromNeBytes (← read .host 0 4)
    if size < 8 then return .error .bufferTooSmall
    else
      let version := endian.fromNeBytes (← read .host 4 4)
      if size < hmclHostApiV1PrefixSize then return .error .bufferTooSmall
      else if version ≠ hmclBridgeAbiV1 then return .error .unsupportedAbi
      else return .ok (← read .host 0 hmclHostApiV1PrefixSize.toNat)

variable {endian : Endian} {memory : Memory Table} {context host outPlugin : UInt64}

theorem validateHostHeader_eq_ok_iff {structSize abiVersion : UInt32} :
    validateHostHeader structSize abiVersion = .ok () ↔ AcceptsHost structSize abiVersion := by
  unfold validateHostHeader AcceptsHost
  rw [← UInt32.not_lt]
  split
  · simp_all
  · split <;> simp_all

theorem run_initializeArguments (contextGiven : isNull context = false)
    (hostGiven : isNull host = false ∧ isAligned host = true) (readable : Readable endian (memory .host)) :
    ∃ outcome, (initializeArguments endian context host).run memory = some outcome ∧ outcome.memory = memory ∧
      ((∃ copied, outcome.result = .ok copied) ↔
        AcceptsHost (advertised endian (memory .host)) (abiVersion endian (memory .host))) ∧
      ∀ copied, outcome.result = .ok copied → copied = (memory .host).take 64 := by
  obtain ⟨size, complete⟩ := readable
  have given : ¬(isNull context ∨ isNull host ∨ ¬isAligned host) := by simp [contextGiven, hostGiven]
  have sixtyFour : hmclHostApiV1PrefixSize.toNat = 64 := rfl
  unfold initializeArguments AcceptsHost
  rw [if_neg given, run_read (by omega), List.drop_zero]
  change ∃ outcome, Option.map _ (MemoryProg.run (if advertised endian (memory .host) < 8 then _ else _) _) = _ ∧ _
  by_cases short : advertised endian (memory .host) < 8
  · have narrow : ¬hmclHostApiV1PrefixSize ≤ advertised endian (memory .host) := by
      rw [UInt32.le_iff_toNat_le]
      rw [UInt32.lt_iff_toNat_lt] at short
      simp only [UInt32.reduceToNat] at short
      omega
    rw [if_pos short, run_pure]
    exact ⟨_, rfl, rfl, by simp [MemoryOutcome.after, narrow], by simp [MemoryOutcome.after]⟩
  · have long : 8 ≤ (memory .host).length := by
      rw [UInt32.lt_iff_toNat_lt] at short
      simp only [UInt32.reduceToNat] at short
      omega
    rw [if_neg short, run_read (by omega), Option.map_map]
    change ∃ outcome, Option.map _ (MemoryProg.run (if advertised endian (memory .host) < hmclHostApiV1PrefixSize then _
      else if abiVersion endian (memory .host) ≠ hmclBridgeAbiV1 then _ else _) _) = _ ∧ _
    by_cases narrow : advertised endian (memory .host) < hmclHostApiV1PrefixSize
    · rw [if_pos narrow, run_pure]
      exact ⟨_, rfl, rfl, by simp [MemoryOutcome.after, narrow], by simp [MemoryOutcome.after]⟩
    · rw [if_neg narrow]
      by_cases other : abiVersion endian (memory .host) ≠ hmclBridgeAbiV1
      · rw [if_pos other, run_pure]
        exact ⟨_, rfl, rfl, by simp [MemoryOutcome.after, other], by simp [MemoryOutcome.after]⟩
      · have wide := UInt32.not_lt.mp narrow
        have inside := UInt32.le_iff_toNat_le.mp wide
        rw [if_neg other, run_read (by omega), run_pure]
        refine ⟨_, rfl, rfl, ?_, ?_⟩
        · exact ⟨fun _ => ⟨wide, not_not.mp other⟩, fun _ => ⟨_, rfl⟩⟩
        · intro copied same
          exact (Except.ok.inj same).symm

structure Negotiates (endian : Endian) (memory : Memory Table) (outcome : MemoryOutcome Table HmclStatus) : Prop where
  /-- Of a table that advertises less than a header only the first field is read, of any other only the header. -/
  reads : ∀ stretch ∈ outcome.reads, stretch.offset + stretch.length ≤
    if (advertised endian (memory stretch.region)).toNat < 8 then 4 else 8
  ok : outcome.result = .ok ↔ Spacious endian memory ∧ SameVersion endian memory
  bufferTooSmall : outcome.result = .bufferTooSmall ↔ ¬Spacious endian memory
  unsupportedAbi : outcome.result = .unsupportedAbi ↔ Spacious endian memory ∧ ¬SameVersion endian memory
  host : outcome.memory .host = memory .host
  refused : outcome.result ≠ .ok → outcome.memory .outPlugin = memory .outPlugin
  installed : outcome.result = .ok →
    outcome.memory .outPlugin = withRequiredPrefix endian ++ (memory .outPlugin).drop 40

/-- Everybody who looks at the header of a host table accepts the same ones as a negotiation whose output is in order. -/
structure HostsAgree (endian : Endian) : Prop where
  validated : ∀ structSize abiVersion, validateHostHeader structSize abiVersion = .ok () ↔
    AcceptsHost structSize abiVersion
  initialized : ∀ memory context host, isNull context = false → isNull host = false ∧ isAligned host = true →
    Readable endian (memory .host) →
      ∃ outcome, (initializeArguments endian context host).run memory = some outcome ∧ outcome.memory = memory ∧
        ((∃ copied, outcome.result = .ok copied) ↔
          AcceptsHost (advertised endian (memory .host)) (abiVersion endian (memory .host)))
  negotiated : ∀ memory host outPlugin, isNull host = false ∧ isAligned host = true →
    isNull outPlugin = false ∧ isAligned outPlugin = true → (∀ table, Readable endian (memory table)) →
      hmclPluginApiV1PrefixSize ≤ advertised endian (memory .outPlugin) →
      abiVersion endian (memory .outPlugin) = hmclBridgeAbiV1 →
        ∃ outcome, (negotiatePluginApiV1 endian host outPlugin).run memory = some outcome ∧
          (outcome.result = .ok ↔
            AcceptsHost (advertised endian (memory .host)) (abiVersion endian (memory .host)))

theorem mem_headerReads {table : Table} {stretch : Stretch Table} (read : stretch ∈ headerReads endian memory table) :
    stretch.offset + stretch.length ≤ if (advertised endian (memory stretch.region)).toNat < 8 then 4 else 8 := by
  have eight : tableHeaderSize = 8 := rfl
  unfold headerReads at read
  split at read
  · rename_i short
    obtain rfl := List.mem_singleton.mp read
    exact (if_pos (c := _ < 8) (eight ▸ short)).symm ▸ le_rfl
  · rename_i long
    rw [List.mem_cons, List.mem_singleton] at read
    rw [eight] at long
    rcases read with rfl | rfl
    · exact (if_neg long).symm ▸ Nat.le_add_right 4 4
    · exact (if_neg long).symm ▸ le_rfl

theorem negotiates_run : Negotiates endian memory
    ⟨if Spacious endian memory then if SameVersion endian memory then .ok else .unsupportedAbi else .bufferTooSmall,
      if Spacious endian memory ∧ SameVersion endian memory then
        update memory .outPlugin (withRequiredPrefix endian ++ (memory .outPlugin).drop 40)
      else memory, negotiationReads endian memory⟩ := by
  have distinct : HmclStatus.ok ≠ .bufferTooSmall ∧ HmclStatus.ok ≠ .unsupportedAbi ∧
      HmclStatus.bufferTooSmall ≠ .unsupportedAbi := by decide
  obtain ⟨first, second, third⟩ := distinct
  constructor
  case reads =>
    intro stretch read
    rcases List.mem_append.mp read with read | read
    · exact mem_headerReads read
    · split at read
      · cases read
      · exact mem_headerReads read
  case ok =>
    by_cases spacious : Spacious endian memory <;> by_cases same : SameVersion endian memory <;>
      simp [spacious, same, first.symm, second.symm]
  case bufferTooSmall =>
    by_cases spacious : Spacious endian memory <;> by_cases same : SameVersion endian memory <;>
      simp [spacious, same, first, third.symm]
  case unsupportedAbi =>
    by_cases spacious : Spacious endian memory <;> by_cases same : SameVersion endian memory <;>
      simp [spacious, same, second, third]
  case host => by_cases installed : Spacious endian memory ∧ SameVersion endian memory <;> simp [installed]
  case refused =>
    by_cases spacious : Spacious endian memory <;> by_cases same : SameVersion endian memory <;> simp [spacious, same]
  case installed =>
    by_cases spacious : Spacious endian memory <;> by_cases same : SameVersion endian memory <;>
      simp [spacious, same, first.symm, second.symm]

theorem hostsAgree (endian : Endian) : HostsAgree endian where
  validated _ _ := validateHostHeader_eq_ok_iff
  initialized memory context host contextGiven hostGiven readable :=
    have ⟨outcome, ran, kept, accepted, _⟩ := run_initializeArguments contextGiven hostGiven readable
    ⟨outcome, ran, kept, accepted⟩
  negotiated memory host outPlugin hostGiven outGiven readable room version := by
    refine ⟨_, run_negotiate hostGiven outGiven readable, negotiates_run.ok.trans ?_⟩
    unfold Spacious SameVersion AcceptsHost
    simp only [room, version, and_true]

/-- A query reads its two tables in stages, decides by what they advertise, and writes nothing but the empty table. -/
theorem staged_negotiation (hostGiven : isNull host = false ∧ isAligned host = true)
    (outGiven : isNull outPlugin = false ∧ isAligned outPlugin = true)
    (readable : ∀ table, Readable endian (memory table)) :
    (∃ outcome, (negotiatePluginApiV1 endian host outPlugin).run memory = some outcome ∧
      Negotiates endian memory outcome) ∧ HostsAgree endian :=
  ⟨⟨_, run_negotiate hostGiven outGiven readable, negotiates_run⟩, hostsAgree endian⟩

/-- Two tables of a later version of the library: 72 and 48 bytes with the version 1. -/
def laterTables : Memory Table
  | .host => [72, 0, 0, 0, 1, 0, 0, 0] ++ List.replicate 64 7
  | .outPlugin => [48, 0, 0, 0, 1, 0, 0, 0] ++ List.replicate 40 9

theorem staged_negotiation_laterTables :
    ∃ outcome, (negotiatePluginApiV1 .little 8 16).run laterTables = some outcome ∧ outcome.result = .ok ∧
      outcome.memory .outPlugin = [40, 0, 0, 0, 1, 0, 0, 0] ++ List.replicate 32 0 ++ List.replicate 8 9 := by
  have readable : ∀ table, Readable .little (laterTables table) := by
    intro table
    cases table <;> exact ⟨by decide, by decide⟩
  obtain ⟨⟨outcome, ran, negotiates⟩, -⟩ : (∃ outcome, (negotiatePluginApiV1 .little 8 16).run laterTables = some outcome ∧
      Negotiates .little laterTables outcome) ∧ HostsAgree .little :=
    staged_negotiation (by decide) (by decide) readable
  have accepted : Spacious .little laterTables ∧ SameVersion .little laterTables := by decide
  exact ⟨outcome, ran, negotiates.ok.mpr accepted, negotiates.installed (negotiates.ok.mpr accepted)⟩

end RuntimeHost.Sdk

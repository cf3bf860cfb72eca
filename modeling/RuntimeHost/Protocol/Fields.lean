import RuntimeHost.Protocol.Message

namespace RuntimeHost.Protocol

open Foundation Sdk

def exactMap (value : Value) (fields : List String) : Except ProtocolError (List (String × Value)) :=
  match value with
  | .map entries =>
    if entries.length ≠ fields.length ∨ ¬∀ name ∈ fields, name ∈ entries.map Prod.fst then
      .error (invalid "message map has unknown or missing fields")
    else .ok entries
  | _ => .error (invalid "message value must be a map")

def field (entries : List (String × Value)) (name : String) : Except ProtocolError Value :=
  okOr (invalid "message map is missing a required field") (entries.lookup name)

def integer : Value → Except ProtocolError Int64
  | .integer i => .ok i
  | _ => .error (invalid "message field must be an integer")

def unsigned (i : Int64) : Option UInt64 := if 0 ≤ i then some i.toUInt64 else none

def positiveId (value : Value) : Except ProtocolError UInt64 := do
  let identifier ← integer value
  okOr (invalid "message identifier must be positive") ((unsigned identifier).filter (0 < ·))

def nonnegativeId (value : Value) : Except ProtocolError UInt64 := do
  let identifier ← integer value
  okOr (invalid "message identifier must be nonnegative") (unsigned identifier)

def string : Value → Except ProtocolError String
  | .string s => .ok s
  | _ => .error (invalid "message field must be a string")

def bytes : Value → Except ProtocolError (List UInt8)
  | .bytes bs => .ok bs
  | _ => .error (invalid "message field must be bytes")

def signed (identifier : UInt64) : Option Int64 :=
  if identifier ≤ i64Max then some identifier.toInt64 else none

def idValue (identifier : UInt64) : Except ProtocolError Value := do
  let i ← okOr (invalid "message identifier exceeds signed-64 range") (signed identifier)
  return .integer i

def handlePayload (objectId generation : UInt64) : Except ProtocolError Value := do
  let objectId ← idValue objectId
  let generation ← idValue generation
  return .map [("objectId", objectId), ("generation", generation)]

theorem nonneg_iff_toUInt64_le (i : Int64) : 0 ≤ i ↔ i.toUInt64 ≤ i64Max := by
  have word : i.toUInt64.toNat = i.toBitVec.toNat := rfl
  have limit : i64Max.toNat = 9223372036854775807 := rfl
  have bound := i.toBitVec.isLt
  rw [Int64.le_iff_toInt_le, UInt64.le_iff_toNat_le, word, limit, ← Int64.toInt_toBitVec i,
    BitVec.toInt_eq_toNat_cond]
  simp only [Int64.toInt_zero]
  split <;> omega

theorem signed_eq_some_iff {identifier : UInt64} {i : Int64} :
    signed identifier = some i ↔ unsigned i = some identifier := by
  unfold signed unsigned
  constructor
  · intro made
    split at made
    · rename_i bounded
      cases made
      have nonneg := (nonneg_iff_toUInt64_le identifier.toInt64).mpr (by simpa using bounded)
      simp [nonneg]
    · cases made
  · intro made
    split at made
    · rename_i nonneg
      cases made
      have bounded := (nonneg_iff_toUInt64_le i).mp nonneg
      simp [bounded]
    · cases made

theorem integer_eq_ok_iff {v : Value} {i : Int64} : integer v = .ok i ↔ v = .integer i := by
  cases v <;> simp [integer]

theorem string_eq_ok_iff {v : Value} {s : String} : string v = .ok s ↔ v = .string s := by
  cases v <;> simp [string]

theorem bytes_eq_ok_iff {v : Value} {bs : List UInt8} : bytes v = .ok bs ↔ v = .bytes bs := by
  cases v <;> simp [bytes]

theorem idValue_eq_ok_iff {identifier : UInt64} {v : Value} :
    idValue identifier = .ok v ↔ ∃ i, signed identifier = some i ∧ v = .integer i := by
  unfold idValue
  rw [bind_eq_ok]
  simp only [okOr_eq_ok, pure_eq_ok, Except.ok.injEq]
  constructor
  · rintro ⟨i, same, rfl⟩
    exact ⟨i, same, rfl⟩
  · rintro ⟨i, same, rfl⟩
    exact ⟨i, same, rfl⟩

theorem positiveId_eq_ok_iff {v : Value} {identifier : UInt64} :
    positiveId v = .ok identifier ↔ idValue identifier = .ok v ∧ 0 < identifier := by
  unfold positiveId
  rw [bind_eq_ok, idValue_eq_ok_iff]
  simp only [integer_eq_ok_iff, okOr_eq_ok, Option.filter_eq_some_iff, decide_eq_true_eq,
    signed_eq_some_iff]
  constructor
  · rintro ⟨i, rfl, same, positive⟩
    exact ⟨⟨i, same, rfl⟩, positive⟩
  · rintro ⟨⟨i, same, rfl⟩, positive⟩
    exact ⟨i, rfl, same, positive⟩

theorem nonnegativeId_eq_ok_iff {v : Value} {identifier : UInt64} :
    nonnegativeId v = .ok identifier ↔ idValue identifier = .ok v := by
  unfold nonnegativeId
  rw [bind_eq_ok, idValue_eq_ok_iff]
  simp only [integer_eq_ok_iff, okOr_eq_ok, signed_eq_some_iff]
  constructor
  · rintro ⟨i, rfl, same⟩
    exact ⟨i, same, rfl⟩
  · rintro ⟨i, same, rfl⟩
    exact ⟨i, rfl, same⟩

theorem idValue_ok {identifier : UInt64} (bounded : identifier ≤ i64Max) :
    idValue identifier = .ok (.integer identifier.toInt64) :=
  idValue_eq_ok_iff.mpr ⟨_, by simp [signed, bounded], rfl⟩

end RuntimeHost.Protocol

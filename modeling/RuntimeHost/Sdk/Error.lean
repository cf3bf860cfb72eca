import RuntimeHost.Foundation.Text

namespace RuntimeHost.Sdk

inductive BridgeErrorKind where
  | invalidArgument
  | invalidResult
  | permissionDenied
  | staleHandle
  | typeMismatch
  | cancelled
  | callbackFailed
  | unavailable
  | internal
  deriving DecidableEq, Repr

abbrev ErrorCode := BridgeErrorKind

def BridgeErrorKind.wireCode : BridgeErrorKind → String
  | .invalidArgument => "invalid-argument"
  | .invalidResult => "invalid-result"
  | .permissionDenied => "permission-denied"
  | .staleHandle => "stale-handle"
  | .typeMismatch => "type-mismatch"
  | .cancelled => "cancelled"
  | .callbackFailed => "callback-failed"
  | .unavailable => "unavailable"
  | .internal => "internal"

def BridgeErrorKind.fromWire (value : String) : Option BridgeErrorKind :=
  if value = "invalid-argument" then some .invalidArgument
  else if value = "invalid-result" then some .invalidResult
  else if value = "permission-denied" then some .permissionDenied
  else if value = "stale-handle" then some .staleHandle
  else if value = "type-mismatch" then some .typeMismatch
  else if value = "cancelled" then some .cancelled
  else if value = "callback-failed" then some .callbackFailed
  else if value = "unavailable" then some .unavailable
  else if value = "internal" then some .internal
  else none

theorem fromWire_eq_some_iff (value : String) (kind : BridgeErrorKind) :
    BridgeErrorKind.fromWire value = some kind ↔ value = kind.wireCode := by
  constructor
  · intro found
    unfold BridgeErrorKind.fromWire at found
    repeat' split at found
    all_goals first
      | (cases found; assumption)
      | cases found
  · rintro rfl
    cases kind <;> rfl

theorem wireCode_size_le (kind : BridgeErrorKind) :
    (Foundation.utf8 kind.wireCode).length ≤ 128 := by
  cases kind <;> decide

/-- A deliberately redacted SDK error containing only a stable category. -/
structure Error where
  code : BridgeErrorKind
  deriving DecidableEq, Repr

def invalidArgument : Error := ⟨.invalidArgument⟩

def invalidResult : Error := ⟨.invalidResult⟩

end RuntimeHost.Sdk

import RuntimeHost.Foundation.History
import RuntimeHost.Java.SessionAuthority
import RuntimeHost.Jni.Exports

namespace RuntimeHost.Jni

open Foundation Function Java Native System

def loadedHandle : NativeEvent → Option Int64
  | .ended (.loadPayload ..) (.ok (payload : Int64)) => some payload
  | _ => none

/-- A native load that succeeds returns a positive handle that is greater than every handle before it. -/
def Fresh (earlier : List NativeEvent) (event : NativeEvent) : Prop :=
  ∀ payload, loadedHandle event = some payload → 0 < payload ∧ live earlier payload = none ∧
    ∀ payload' ∈ earlier.filterMap loadedHandle, payload' < payload

end RuntimeHost.Jni

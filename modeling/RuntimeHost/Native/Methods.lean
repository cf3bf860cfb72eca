import RuntimeHost.Native.Engine

namespace RuntimeHost.Native

open Foundation

/-- The operations of a method of a payload, which runs under the lock of the payload. -/
def Inner : NativeOp → Prop
  | .engine (.setState ..) => True
  | .plugin .. => True
  | _ => False

def InnerOf (payload : Nat) : NativeOp → Prop
  | .engine (.setState payload' _) => payload' = payload
  | .plugin payload' _ => payload' = payload
  | _ => False

theorem InnerOf.inner {payload : Nat} {op : NativeOp} (inner : InnerOf payload op) : Inner op := by
  cases op with
  | engine op =>
    cases op with
    | setState payload' state => trivial
    | _ => exact inner.elim
  | plugin payload' call => trivial

namespace EmbeddedPayload

variable (payload : Nat) (self : EmbeddedPayload)

theorem enable_innerOf : (self.enable payload).Only (InnerOf payload) := by
  unfold EmbeddedPayload.enable
  split
  · split
    · trivial
    · refine Prog.Only.bind ⟨rfl, fun _ => trivial⟩ fun returned => ?_
      cases requirePluginStatus returned.status with
      | error error => trivial
      | ok => exact ⟨rfl, fun _ => trivial⟩
  · exact ⟨rfl, fun _ => trivial⟩
  all_goals trivial

theorem disable_innerOf : (self.disable payload).Only (InnerOf payload) := by
  unfold EmbeddedPayload.disable
  split
  · exact ⟨rfl, fun _ => trivial⟩
  all_goals trivial

theorem invoke_innerOf (operation : String) (input : List UInt8) (callback : UInt64) :
    (self.invoke payload operation input callback).Only (InnerOf payload) := by
  unfold EmbeddedPayload.invoke
  split
  · trivial
  · split
    · trivial
    · refine Prog.Only.bind ⟨rfl, fun _ => trivial⟩ fun returned => ?_
      split <;> trivial

theorem shutdownOnce_innerOf : (self.shutdownOnce payload).Only (InnerOf payload) := by
  unfold EmbeddedPayload.shutdownOnce
  split
  · trivial
  · refine Prog.Only.bind ⟨rfl, fun _ => trivial⟩ fun returned => ?_
    split <;> exact ⟨rfl, fun _ => trivial⟩

theorem shutdownForUnload_innerOf : (self.shutdownForUnload payload).Only (InnerOf payload) := by
  unfold EmbeddedPayload.shutdownForUnload
  split
  · trivial
  case h_4 => exact shutdownOnce_innerOf payload self
  all_goals exact ⟨rfl, fun _ => trivial⟩

theorem forceShutdown_innerOf : (self.forceShutdown payload).Only (InnerOf payload) := by
  unfold EmbeddedPayload.forceShutdown
  split
  case h_4 => exact shutdownOnce_innerOf payload self
  case h_5 => exact shutdownOnce_innerOf payload self
  all_goals exact ⟨rfl, fun _ => trivial⟩

theorem enable_inner : (self.enable payload).Only Inner :=
  (enable_innerOf payload self).imp fun _ => InnerOf.inner

theorem disable_inner : (self.disable payload).Only Inner :=
  (disable_innerOf payload self).imp fun _ => InnerOf.inner

theorem invoke_inner (operation : String) (input : List UInt8) (callback : UInt64) :
    (self.invoke payload operation input callback).Only Inner :=
  (invoke_innerOf payload self operation input callback).imp fun _ => InnerOf.inner

theorem shutdownForUnload_inner : (self.shutdownForUnload payload).Only Inner :=
  (shutdownForUnload_innerOf payload self).imp fun _ => InnerOf.inner

theorem forceShutdown_inner : (self.forceShutdown payload).Only Inner :=
  (forceShutdown_innerOf payload self).imp fun _ => InnerOf.inner

end EmbeddedPayload

end RuntimeHost.Native

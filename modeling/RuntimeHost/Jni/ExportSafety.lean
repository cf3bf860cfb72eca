import RuntimeHost.Jni.Exports

namespace RuntimeHost.Jni

open Foundation Function Java Native ExportProg

variable {Tid α β : Type} {t : Tid} {b b' : Boxes Tid} {solo : Solo Tid} {handle : Int64} {allowed : UInt64 → Prop}
  {sessions : UInt64 → Option UInt64} {next : UInt64}

namespace Boxes

/-- No address was used in vain, and only payloads with such sessions have plugin calls. -/
structure Sound (allowed : UInt64 → Prop) (b : Boxes Tid) : Prop where
  undangled : b.dangled = false
  calls : ∀ handle solo, b.boxes handle = some solo → Solo.Calls allowed solo

def empty : Boxes Tid := {}

def alone (handle : Int64) (solo : Solo Tid) : Boxes Tid := { boxes := update (fun _ => none) handle (some solo) }

theorem sound_empty : Sound allowed (empty : Boxes Tid) := ⟨rfl, nofun⟩

theorem sound_alone (calls : Solo.Calls allowed solo) : Sound allowed (alone handle solo) := by
  refine ⟨rfl, fun handle' solo' held => ?_⟩
  simp only [alone, update_apply] at held
  split at held
  · cases held
    exact calls
  · cases held

theorem alone_self : (alone handle solo).boxes handle = some solo := by
  show update (fun _ => none) handle (some solo) handle = _
  rw [update_self]

def Holds (handle : Int64) (sessions : UInt64 → Option UInt64) (next : UInt64) (b : Boxes Tid) : Prop :=
  ∃ solo, b = alone handle solo ∧ solo.Enlists sessions next

end Boxes

open Boxes

abbrev Ensured (t : Tid) (allowed : UInt64 → Prop) (post : α → Boxes Tid → Prop) (p : ExportProg α) (b : Boxes Tid) : Prop :=
  p.Ensures (Boxes.exec t) (Sound allowed) post b

section Rules

variable {post : Except HostError β → Boxes Tid → Prop} {p : ExportProg (Except HostError α)}

theorem ensured_andThen {following : α → ExportProg (Except HostError β)}
    (ensured : Ensured t allowed (fun result b' => match result with
      | .error error => post (.error error) b'
      | .ok value => Ensured t allowed post (following value) b') p b) : Ensured t allowed post (andThen p following) b := by
  refine .bind (ensured.imp fun result b' here rest => ?_)
  cases result with
  | error error => exact ⟨here, rest⟩
  | ok value => exact rest

theorem ensured_jni {op : JniOp} (sound : Sound allowed b) : Ensured t allowed (fun answer b' => op.Fits answer ∧ b' = b) (jni op) b := by
  refine ⟨sound, fun answer b' moved => ?_⟩
  obtain ⟨fits, rfl⟩ := moved
  exact ⟨sound, fits, rfl⟩

theorem ensured_orJavaBridge {worked : ExportProg Bool} {value : β} (sound : Sound allowed b)
    (asks : Ensured t allowed (fun _ b' => b' = b) worked b) (refused : post (.error .javaBridge) b)
    (accepted : post (.ok value) b) : Ensured t allowed post (orJavaBridge worked value) b := by
  refine .bind (asks.imp fun answer b' _ same => ?_)
  subst same
  cases answer with
  | true => exact ⟨sound, accepted⟩
  | false => exact ⟨sound, refused⟩

theorem ensured_engine {solo : Solo Tid} {post : Except HostError Int64 → Boxes Tid → Prop} (opened : handle ≠ 0)
    (idle : solo.running = none) (rest : post (.ok handle) (alone handle solo)) :
    Ensured t allowed post (engine handle) (alone handle solo) := by
  have sound : Sound allowed (alone handle solo) := sound_alone (.of_idle idle)
  unfold engine
  rw [if_neg opened]
  refine ⟨sound, fun answer b' moved => ?_⟩
  obtain rfl : b' = alone handle solo := by
    rw [show b' = _ from moved, alone_self]
    rfl
  exact ⟨sound, rest⟩

theorem ensured_onEngine {p : NativeProg α} {post : α → Solo Tid → Prop}
    (ensures : (p.handle EngineTask.apart).Ensures (Solo.step t) (Solo.Calls allowed) post solo) :
    Ensured t allowed (fun a b' => ∃ solo', b' = alone handle solo' ∧ post a solo') (onEngine handle p) (alone handle solo) := by
  unfold onEngine
  generalize p.handle EngineTask.apart = q at ensures
  induction q generalizing solo with
  | done a => exact ⟨sound_alone ensures.1, solo, rfl, ensures.2⟩
  | act op rest ih =>
    refine ⟨sound_alone ensures.1, fun answer b' moved => ?_⟩
    obtain ⟨solo', done, rfl⟩ : ∃ solo', Solo.step t solo op answer solo' ∧ b' = alone handle solo' := by
      simp only [exec, alone_self] at moved
      obtain ⟨solo', done, rfl⟩ := moved
      refine ⟨solo', done, ?_⟩
      simp only [alone, update_idem]
    exact ih answer (ensures.2 answer solo' done)

theorem ensured_jniResult {post : Except Throwable α → Boxes Tid → Prop} {fallback : α}
    (action : Ensured t allowed (fun result b' => match result with
      | .error _ => ∀ exception, post (.error exception) b'
      | .ok value => post (.ok value) b') p b) :
    Ensured t allowed post (jniResult fallback p >>= fun returned => return thrown returned) b := by
  show Ensured _ _ _ ((p >>= _) >>= _) _
  rw [Prog.bind_bind]
  refine .bind (action.imp fun result b' here rest => ?_)
  cases result with
  | ok value => exact ⟨here, rest⟩
  | error error =>
    refine ⟨here, fun (exception : Throwable) b'' moved => ?_⟩
    obtain ⟨-, rfl⟩ := moved
    exact ⟨here, rest exception⟩

end Rules

section Exports

variable {payloadId : Int64}

abbrev Listed (sessions : UInt64 → Option UInt64) (session : UInt64) : Prop := ∃ id, sessions id = some session

theorem ensured_createEngine : Ensured t allowed (fun answer b' => match answer with
    | .error _ => b' = empty
    | .ok handle => handle ≠ (0 : Int64) ∧ Holds handle (fun _ => none) 1 b') (jniBindings .create) (empty : Boxes Tid) := by
  have asked : ∀ op : JniOp, Ensured t allowed (fun _ b' => b' = empty) (jni op) (empty : Boxes Tid) :=
    fun op => (ensured_jni sound_empty).imp fun _ _ _ same => same.2
  refine ensured_jniResult (ensured_andThen ?_)
  refine ensured_orJavaBridge sound_empty (asked .getJavaVm) (fun _ => rfl) (ensured_andThen ?_)
  refine ensured_orJavaBridge sound_empty (asked .newGlobalRef) (fun _ => rfl) ?_
  refine ⟨sound_empty, fun (handle : Int64) b' moved => ?_⟩
  obtain ⟨opened, -, rfl⟩ := moved
  have fresh : Solo.Enlists (fun _ => none) 1 ({} : Solo Tid) := ⟨.initial, rfl, fun _ => rfl, rfl, rfl⟩
  exact ⟨sound_alone (.of_idle rfl), opened, {}, rfl, fresh⟩

theorem ensured_keeps {p : ExportProg (Except HostError α)} {fallback : α}
    (ensured : Ensured t allowed (fun _ b' => Holds handle sessions next b') p b) :
    Ensured t allowed (fun _ b' => Holds handle sessions next b')
      (jniResult fallback p >>= fun returned => return thrown returned) b := by
  refine ensured_jniResult (ensured.imp fun result b' _ holds => ?_)
  cases result with
  | error error => exact fun _ => holds
  | ok value => exact holds

variable (enlists : solo.Enlists sessions next) (opened : handle ≠ 0)

include enlists opened

theorem ensured_method {p : NativeProg (Except HostError α)} {post : Except HostError α → Solo Tid → Prop}
    (ensures : (p.handle EngineTask.apart).Ensures (Solo.step t) (Solo.Calls allowed) post solo) :
    Ensured t allowed (fun result b' => ∃ solo', b' = alone handle solo' ∧ post result solo')
      (andThen (engine handle) fun owner => onEngine owner p) (alone handle solo) := by
  have called : Ensured t allowed (fun result b' => ∃ solo', b' = alone handle solo' ∧ post result solo')
      (onEngine handle p) (alone handle solo) := ensured_onEngine ensures
  refine ensured_andThen (ensured_engine opened enlists.idle ?_)
  exact called

theorem ensured_healthCheck : Ensured t (Listed sessions) (fun _ b' => Holds handle sessions next b')
    (jniBindings (.healthCheck handle)) (alone handle solo) := by
  refine ensured_jniResult (ensured_andThen (ensured_engine opened enlists.idle ?_))
  exact ⟨sound_alone (.of_idle enlists.idle), solo, rfl, enlists⟩

theorem ensured_enablePayload : Ensured t (Listed sessions) (fun _ b' => Holds handle sessions next b')
    (jniBindings (.enablePayload handle payloadId)) (alone handle solo) :=
  ensured_keeps (ensured_method enlists opened (Solo.ensures_enablePayload enlists))

theorem ensured_disablePayload : Ensured t (Listed sessions) (fun _ b' => Holds handle sessions next b')
    (jniBindings (.disablePayload handle payloadId)) (alone handle solo) :=
  ensured_keeps (ensured_method enlists opened (Solo.ensures_disablePayload enlists))

theorem ensured_invokePayload {operation : String} {input : List UInt8} {callbackId : Int64} :
    Ensured t (Listed sessions) (fun _ b' => Holds handle sessions next b')
      (jniBindings (.invokePayload handle payloadId operation input callbackId)) (alone handle solo) := by
  have sound : ∀ {solo : Solo Tid}, solo.Enlists sessions next → Sound (Listed sessions) (alone handle solo) :=
    fun enlists => sound_alone (.of_idle enlists.idle)
  have asked : ∀ {solo : Solo Tid}, solo.Enlists sessions next → ∀ op : JniOp,
      Ensured t (Listed sessions) (fun _ b' => b' = alone handle solo) (jni op) (alone handle solo) :=
    fun enlists op => (ensured_jni (sound enlists)).imp fun _ _ _ same => same.2
  refine ensured_keeps (ensured_andThen ?_)
  refine ensured_orJavaBridge (sound enlists) (asked enlists (.getString operation)) ⟨solo, rfl, enlists⟩ (ensured_andThen ?_)
  refine ensured_orJavaBridge (sound enlists) (asked enlists (.convertByteArray input)) ⟨solo, rfl, enlists⟩ ?_
  refine ensured_andThen (ensured_engine opened enlists.idle (ensured_andThen ?_))
  refine (ensured_onEngine (Solo.ensures_invokePayload enlists)).imp fun result b' _ called => ?_
  obtain ⟨solo', rfl, enlists'⟩ := called
  cases result with
  | error error => exact ⟨solo', rfl, enlists'⟩
  | ok output =>
    exact ensured_orJavaBridge (sound enlists') (asked enlists' (.byteArrayFromSlice output)) ⟨solo', rfl, enlists'⟩
      ⟨solo', rfl, enlists'⟩

theorem ensured_unloadPayload : Ensured t (Listed sessions) (fun answer b' => match answer with
    | .error _ => Holds handle sessions next b'
    | .ok () => Holds handle (update sessions payloadId.toUInt64 none) next b')
      (jniBindings (.unloadPayload handle payloadId)) (alone handle solo) := by
  refine ensured_jniResult ((ensured_method enlists opened (Solo.ensures_unloadPayload enlists)).imp ?_)
  rintro result b' - ⟨solo', rfl, ends⟩
  cases result with
  | error error => exact fun _ => ⟨solo', rfl, ends⟩
  | ok => exact ⟨solo', rfl, ends⟩

theorem ensured_loadPayload {packageRoot entrypoint : String} {pluginId session : Int64} :
    Ensured t allowed (fun answer b' => match answer with
      | .error _ => Holds handle sessions next b'
      | .ok payload => payload = next.toInt64 ∧ ∃ next' : UInt64, next'.toNat = next.toNat + 1 ∧
          Holds handle (update sessions next (some session.toUInt64)) next' b')
        (jniBindings (.loadPayload handle packageRoot entrypoint pluginId session)) (alone handle solo) := by
  have sound : Sound allowed (alone handle solo) := sound_alone (.of_idle enlists.idle)
  have asked : ∀ op : JniOp, Ensured t allowed (fun _ b' => b' = alone handle solo) (jni op) (alone handle solo) :=
    fun op => (ensured_jni sound).imp fun _ _ _ same => same.2
  have refused : Holds handle sessions next (alone handle solo) := ⟨solo, rfl, enlists⟩
  refine ensured_jniResult (ensured_andThen ?_)
  refine ensured_orJavaBridge sound (asked (.getString packageRoot)) (fun _ => refused) (ensured_andThen ?_)
  refine ensured_orJavaBridge sound (asked (.getString entrypoint)) (fun _ => refused) (ensured_andThen ?_)
  refine ensured_engine opened enlists.idle (ensured_andThen ?_)
  refine (ensured_onEngine (Solo.ensures_loadPayload enlists)).imp fun result b' here called => ?_
  obtain ⟨solo', rfl, ends⟩ := called
  cases result with
  | error error => exact fun _ => ⟨solo', rfl, ends⟩
  | ok id =>
    obtain ⟨rfl, next', later, enlists'⟩ := ends
    exact ⟨here, rfl, next', later, solo', rfl, enlists'⟩

theorem ensured_destroy : Ensured t (Listed sessions) (fun answer b' => answer = (.ok () : Except Throwable Unit) ∧ b' = empty)
    (jniBindings (.destroy handle)) (alone handle solo) := by
  have sound : Sound (Listed sessions) (alone handle solo) := sound_alone (.of_idle enlists.idle)
  have shape : destroyEngine handle = .act (.fromRaw handle) fun _ =>
      onEngine handle Engine.close >>= fun _ => onEngine handle Engine.close >>= fun _ => .act (.dropBox handle) .done :=
    if_neg opened
  show Ensured _ _ _ (destroyEngine handle >>= _) _
  rw [shape]
  refine .bind ⟨sound, fun answer b' moved => ?_⟩
  obtain rfl : b' = alone handle solo := by
    rw [show b' = _ from moved, alone_self]
    rfl
  refine .bind ((ensured_onEngine (Solo.ensures_close enlists)).imp fun _ b' _ closed => ?_)
  obtain ⟨solo', rfl, ordered, closed, idle⟩ := closed
  refine .bind ((ensured_onEngine (Solo.ensures_closed ordered closed idle)).imp fun _ b' here same => ?_)
  obtain ⟨_, rfl, rfl⟩ := same
  refine ⟨here, fun answer b' moved => ?_⟩
  obtain rfl : b' = empty := by
    rw [show b' = _ from moved, alone_self]
    simp [alone, empty, update_idem]
  exact ⟨sound_empty, sound_empty, rfl, rfl⟩

end Exports

end RuntimeHost.Jni

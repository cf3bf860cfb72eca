import RuntimeHost.Jni.Environment

namespace RuntimeHost.Jni

open Foundation Java Native ExportProg

variable {α β : Type} {env env' : JniEnv} {worked spills : Bool} {pending : Option Throwable}

namespace JniEnv

/-- No function has been called with an exception pending, unless a Bridge call has left one. -/
def Disciplined (env : JniEnv) : Prop := env.spilled = true ∨ env.misused = false

def Calm (env : JniEnv) : Prop := env.spilled = true ∨ env.misused = false ∧ env.pending = none

theorem Calm.disciplined (calm : env.Calm) : env.Disciplined := calm.imp id And.left

theorem Calm.used (calm : env.Calm) : env.spilled = true ∨ env.used = false := by
  refine calm.imp id fun clean => ?_
  simp [JniEnv.used, clean.1, clean.2]

theorem Converts.disciplined (converts : env.Converts worked pending env' spills) (calm : env.Calm) : env'.Disciplined := by
  obtain ⟨-, rfl⟩ := converts
  rcases calm.used with spilled | unused
  · exact .inl (by simp [spilled])
  · exact .inr unused

theorem Converts.calm (converts : env.Converts worked pending env' spills) (calm : env.Calm)
    (handled : worked = true ∨ spills = true) : env'.Calm := by
  obtain ⟨quiet, rfl⟩ := converts
  rcases calm.used with spilled | unused
  · exact .inl (by simp [spilled])
  · cases pending with
    | none => exact .inr ⟨unused, rfl⟩
    | some exception =>
      rcases handled with worked | rfl
      · cases quiet worked
      · exact .inl (by simp)

theorem calm_of_spilling (converts : ∃ pending, env.Converts worked pending env' true) (calm : env.Calm) : env'.Calm := by
  obtain ⟨pending, converts⟩ := converts
  exact converts.calm calm (.inr rfl)

end JniEnv

open JniEnv

/-- Whatever the world answers, a program keeps to the rules and ends in `post`. -/
abbrev Behaves (post : α → JniEnv → Prop) (p : EnvProg α) (env : JniEnv) : Prop := p.Ensures JniEnv.step Disciplined post env

section Bridge

theorem behaves_clearPendingException (disciplined : env.Disciplined) :
    Behaves (fun _ env' => env'.Calm) clearPendingException env := by
  refine ⟨disciplined, fun answer env' checked => ?_⟩
  obtain ⟨rfl, rfl⟩ := checked
  show Behaves _ (if env'.pending.isSome then _ else _) env'
  cases pending : env'.pending with
  | none =>
    have calm : env'.Calm := disciplined.imp id fun unused => ⟨unused, pending⟩
    exact ⟨calm.disciplined, calm⟩
  | some exception =>
    refine ⟨disciplined, fun answer env'' cleared => ?_⟩
    obtain rfl : env'' = _ := cleared
    have calm : JniEnv.Calm { env' with pending := none } := disciplined.imp id fun unused => ⟨unused, rfl⟩
    exact ⟨calm.disciplined, calm⟩

theorem behaves_callMethod {name signature : String} {arguments : List JValue} {post : α → JniEnv → Prop}
    {f : Except Unit (Option (List UInt8)) → EnvProg α} (calm : env.Calm)
    (returns : ∀ value env', env'.Calm → Behaves post (f (.ok value)) env')
    (throws : ∀ env', env'.Disciplined → Behaves post (f (.error ())) env') :
    Behaves post (.perform (EnvOp.callMethod name signature arguments) >>= f) env := by
  refine ⟨calm.disciplined, fun result env' called => ?_⟩
  obtain ⟨pending, quiet, rfl⟩ := called
  cases result with
  | ok value =>
    obtain rfl := quiet value rfl
    exact returns value _ (calm.used.imp id fun unused => ⟨unused, rfl⟩)
  | error => exact throws _ calm.used

theorem behaves_attach {post : α → JniEnv → Prop} {f : Bool → EnvProg α} (calm : env.Calm)
    (rest : ∀ attached, Behaves post (f attached) env) : Behaves post (.perform EnvOp.attach >>= f) env := by
  refine ⟨calm.disciplined, fun attached env' same => ?_⟩
  obtain rfl : env' = env := same
  exact rest attached

theorem behaves_invoke {session : UInt64} {operation : String} {input : List UInt8} (calm : env.Calm) :
    Behaves (fun _ env' => env'.Calm) (JavaBridge.invoke session operation input) env := by
  refine behaves_attach calm fun attached => ?_
  cases attached with
  | false => exact ⟨calm.disciplined, calm⟩
  | true =>
    refine ⟨calm.disciplined, fun made env' converts => ?_⟩
    have calm := calm_of_spilling converts calm
    cases made with
    | false => exact ⟨calm.disciplined, calm⟩
    | true =>
      refine ⟨calm.disciplined, fun made env' converts => ?_⟩
      have calm := calm_of_spilling converts calm
      cases made with
      | false => exact ⟨calm.disciplined, calm⟩
      | true =>
        refine behaves_callMethod calm (fun value env' calm => ?_) fun env' disciplined => ?_
        · cases value with
          | none => exact ⟨calm.disciplined, calm⟩
          | some output =>
            refine ⟨calm.disciplined, fun converted env' converts => ?_⟩
            have calm := calm_of_spilling converts calm
            cases converted <;> exact ⟨calm.disciplined, calm⟩
        · exact .bind ((behaves_clearPendingException disciplined).imp fun _ env' _ calm => ⟨calm.disciplined, calm⟩)

theorem behaves_handleCall {method : String} {session objectId generation : UInt64} (calm : env.Calm) :
    Behaves (fun _ env' => env'.Calm) (JavaBridge.handleCall method session objectId generation) env := by
  refine behaves_attach calm fun attached => ?_
  cases attached with
  | false => exact ⟨calm.disciplined, calm⟩
  | true =>
    refine behaves_callMethod calm (fun value env' calm => ⟨calm.disciplined, calm⟩) fun env' disciplined => ?_
    exact .bind ((behaves_clearPendingException disciplined).imp fun _ env' _ calm => ⟨calm.disciplined, calm⟩)

theorem behaves_transport (behaviour : Prog TransportOp TransportOp.Answer α) (calm : env.Calm) :
    Behaves (fun _ env' => env'.Calm) (behaviour.handle JavaBridge.transport) env := by
  induction behaviour generalizing env with
  | done a => exact ⟨calm.disciplined, calm⟩
  | act op next ih =>
    have called : Behaves (fun _ env' => env'.Calm) (JavaBridge.transport op) env := by
      cases op with
      | invoke plugin session operation input => exact behaves_invoke calm
      | retainHandle session objectId generation => exact behaves_handleCall calm
      | releaseHandle session objectId generation => exact behaves_handleCall calm
    exact .bind (called.imp fun answer env' _ calm => ih answer calm)

end Bridge

section Exports

variable {handle : Int64} {action : ExportProg (Except HostError α)}

/-- What an action leaves: only an error may leave the exception that it came with. -/
def LeftBy : Except HostError α → JniEnv → Prop
  | .ok _, env => env.Calm
  | .error _, env => env.Disciplined

def Reported (exception : Option Throwable) (env : JniEnv) : Prop :=
  env.spilled = true ∨ env.misused = false ∧ env.pending = exception

def seen : Except Throwable α → Option Throwable
  | .ok _ => none
  | .error exception => some exception

def Own : ExportOp → Prop
  | .jni _ => False
  | _ => True

theorem behaves_entered (op : ExportOp) (own : Own op) (calm : env.Calm) :
    Behaves (fun _ env' => env'.Calm) (onEnvironment op) env := by
  cases op with
  | jni op => exact own.elim
  | _ =>
    refine ⟨calm.disciplined, fun behaviour env' same => ?_⟩
    obtain rfl : env' = env := same
    exact behaves_transport behaviour calm

theorem behaves_own {p : ExportProg α} (only : p.Only Own) (calm : env.Calm) :
    Behaves (fun _ env' => env'.Calm) (p.handle onEnvironment) env := by
  induction p generalizing env with
  | done a => exact ⟨calm.disciplined, calm⟩
  | act op next ih =>
    exact .bind ((behaves_entered op only.1 calm).imp fun answer env' _ calm => ih answer (only.2 answer) calm)

theorem own_onEngine (p : NativeProg α) : (onEngine handle p).Only Own := by
  have performed : ∀ op, (Prog.perform (ExportOp.engine handle op) : ExportProg _).Only Own := fun _ =>
    ⟨trivial, fun _ => trivial⟩
  exact .handle performed _

theorem own_destroyEngine : (destroyEngine handle).Only Own := by
  by_cases null : handle = 0
  · have shape : destroyEngine handle = .done () := if_pos null
    rw [shape]
    trivial
  · have shape : destroyEngine handle = .act (.fromRaw handle) fun _ =>
        onEngine handle Engine.close >>= fun _ => onEngine handle Engine.close >>= fun _ => .act (.dropBox handle) .done :=
      if_neg null
    rw [shape]
    exact ⟨trivial, fun _ => .bind (own_onEngine _) fun _ => .bind (own_onEngine _) fun _ => ⟨trivial, fun _ => trivial⟩⟩

theorem behaves_onEngine {p : NativeProg (Except HostError α)} (calm : env.Calm) :
    Behaves LeftBy ((onEngine handle p).handle onEnvironment) env := by
  refine (behaves_own (own_onEngine p) calm).imp fun result env' disciplined calm => ?_
  cases result with
  | ok value => exact calm
  | error error => exact disciplined

theorem behaves_engine (calm : env.Calm) : Behaves LeftBy ((engine handle).handle onEnvironment) env := by
  unfold engine
  split
  · exact ⟨calm.disciplined, calm.disciplined⟩
  · refine .bind ((behaves_entered (.asRef handle) trivial calm).imp fun _ env' _ calm => ?_)
    exact ⟨calm.disciplined, calm⟩

theorem behaves_andThen {next : α → ExportProg (Except HostError β)}
    (first : Behaves LeftBy (action.handle onEnvironment) env)
    (rest : ∀ value env', env'.Calm → Behaves LeftBy ((next value).handle onEnvironment) env') :
    Behaves LeftBy ((andThen action next).handle onEnvironment) env := by
  unfold andThen
  rw [Prog.handle_bind]
  refine .bind (first.imp fun result env' disciplined left => ?_)
  cases result with
  | ok value => exact rest value env' left
  | error error => exact ⟨disciplined, disciplined⟩

theorem behaves_converted {value : α} (calm : env.Calm) (converts : ∃ pending, env.Converts worked pending env' false) :
    Behaves LeftBy ((if worked then .done (.ok value) else .done (.error .javaBridge) :
      ExportProg (Except HostError α)).handle onEnvironment) env' := by
  obtain ⟨pending, converts⟩ := converts
  cases worked with
  | false => exact ⟨converts.disciplined calm, converts.disciplined calm⟩
  | true =>
    have calm := converts.calm calm (.inl rfl)
    exact ⟨calm.disciplined, calm⟩

theorem behaves_javaString {value : String} (calm : env.Calm) :
    Behaves LeftBy ((javaString value).handle onEnvironment) env := by
  exact ⟨calm.disciplined, fun worked env' converts => behaves_converted calm converts⟩

theorem behaves_jniResult {fallback : α} (acts : Behaves LeftBy (action.handle onEnvironment) env) :
    Behaves (fun answer env' => Reported answer.2 env') ((jniResult fallback action).handle onEnvironment) env := by
  unfold jniResult
  rw [Prog.handle_bind]
  refine .bind (acts.imp fun result env' disciplined left => ?_)
  cases result with
  | ok value => exact ⟨disciplined, left⟩
  | error error =>
    refine .bind (.bind ((behaves_clearPendingException disciplined).imp fun _ clear _ calm => ?_))
    refine ⟨calm.disciplined, fun exception thrown made => ?_⟩
    obtain ⟨-, rfl⟩ := made
    have reported : Reported (some exception) { clear with pending := some exception, misused := clear.used } :=
      calm.used.imp id fun unused => ⟨unused, rfl⟩
    exact ⟨calm.used, calm.used, reported⟩

theorem reported_thrown {answer : α × Option Throwable} (reported : Reported answer.2 env) :
    Reported (seen (thrown answer)) env := by
  obtain ⟨value, exception⟩ := answer
  cases exception with
  | none => exact reported
  | some exception => exact reported

/-- In every run of an export, whatever the engine and its payloads do with the Bridge: no function is called that may not be
while an exception is pending, and the exception that the virtual machine sees in the end is that of the answer. The one way
out is a conversion of a Bridge call that throws, for its exception is left pending. -/
theorem behaves_jniBindings (call : NativeCall) :
    Behaves (fun answer env => Reported (seen answer) env) ((jniBindings call).handle onEnvironment) {} := by
  have calm : JniEnv.Calm {} := .inr ⟨rfl, rfl⟩
  have exported : ∀ {α : Type} {fallback : α} {action : ExportProg (Except HostError α)},
      Behaves LeftBy (action.handle onEnvironment) {} → Behaves (fun answer env => Reported (seen answer) env)
        ((jniResult fallback action >>= fun answer => .done (thrown answer)).handle onEnvironment) {} := by
    intro α fallback action acts
    rw [Prog.handle_bind]
    refine .bind ((behaves_jniResult acts).imp fun answer env disciplined reported => ?_)
    exact ⟨disciplined, reported_thrown reported⟩
  cases call with
  | create =>
    refine exported (behaves_andThen ?_ fun _ env calm => behaves_andThen ?_ fun _ env calm => ?_)
    · exact ⟨calm.disciplined, fun worked env' converts => behaves_converted calm converts⟩
    · exact ⟨calm.disciplined, fun worked env' converts => behaves_converted calm converts⟩
    · refine .bind ((behaves_entered .intoRaw trivial calm).imp fun _ env' _ calm => ?_)
      exact ⟨calm.disciplined, calm⟩
  | healthCheck handle =>
    exact exported (behaves_andThen (behaves_engine calm) fun _ env calm => ⟨calm.disciplined, calm⟩)
  | loadPayload handle packageRoot entrypoint pluginId session =>
    refine exported (behaves_andThen (behaves_javaString calm) fun _ env calm => ?_)
    refine behaves_andThen (behaves_javaString calm) fun _ env calm => ?_
    refine behaves_andThen (behaves_engine calm) fun _ env calm => ?_
    exact behaves_andThen (behaves_onEngine calm) fun _ env calm => ⟨calm.disciplined, calm⟩
  | enablePayload handle payloadId | disablePayload handle payloadId | unloadPayload handle payloadId =>
    exact exported (behaves_andThen (behaves_engine calm) fun _ env calm => behaves_onEngine calm)
  | invokePayload handle payloadId operation input callbackId =>
    refine exported (behaves_andThen (behaves_javaString calm) fun _ env calm => behaves_andThen ?_ fun _ env calm => ?_)
    · exact ⟨calm.disciplined, fun worked env' converts => behaves_converted calm converts⟩
    · refine behaves_andThen (behaves_engine calm) fun _ env calm => ?_
      refine behaves_andThen (behaves_onEngine calm) fun _ env calm => ?_
      exact ⟨calm.disciplined, fun worked env' converts => behaves_converted calm converts⟩
  | destroy handle =>
    show Behaves _ ((destroyEngine handle >>= fun answer =>
      (.done (Except.ok answer) : ExportProg (Except Throwable Unit))).handle onEnvironment) {}
    rw [Prog.handle_bind]
    exact .bind ((behaves_own own_destroyEngine calm).imp fun _ env _ calm => ⟨calm.disciplined, calm⟩)

example : ¬(JavaBridge.invoke 1 "first" [] >>= fun _ => JavaBridge.invoke 1 "second" []).Ensures JniEnv.step
    (fun env => env.misused = false) (fun _ _ => True) {} := by
  intro ensures
  have attached := ensures.2 true {} rfl
  have failed := attached.2 false ⟨some (.error "no memory"), false, true⟩ ⟨_, Bool.noConfusion, rfl⟩
  have attached' := failed.2 true _ rfl
  have misused := (attached'.2 false ⟨none, true, true⟩ ⟨_, Bool.noConfusion, rfl⟩).1
  cases misused

end Exports

end RuntimeHost.Jni

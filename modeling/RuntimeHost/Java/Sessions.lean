import RuntimeHost.Java.NativeEngine

namespace RuntimeHost.Java

open Foundation Function

/-- The payloads that the native library has live, as its history tells, with their sessions. -/
def live : List NativeEvent → Int64 → Option Int64
  | [] => fun _ => none
  | .ended (.loadPayload _ _ _ _ session) (.ok (payload : Int64)) :: earlier =>
    if 0 < payload ∧ live earlier payload = none then update (live earlier) payload (some session) else live earlier
  | .ended (.unloadPayload _ payload) (.ok ()) :: earlier => update (live earlier) payload none
  | .ended (.destroy _) (.ok ()) :: _ => fun _ => none
  | _ :: earlier => live earlier

def NativeEvent.session : NativeEvent → Option Int64
  | .started (.loadPayload _ _ _ _ session) => some session
  | _ => none

/-- What ends a session: its load fails, its payload has been unloaded, or the native engine has been destroyed. -/
def Ends (session : Int64) (earlier : List NativeEvent) : NativeEvent → Prop
  | .ended (.loadPayload _ _ _ _ loading) answer =>
    loading = session ∧ ¬∃ payload : Int64, answer = .ok payload ∧ 0 < payload ∧ live earlier payload = none
  | .ended (.unloadPayload _ payload) (.ok ()) => live earlier payload = some session
  | .ended (.destroy _) (.ok ()) => True
  | _ => False

/-- The native load of the session has started, and nothing has ended the session since. -/
def Resolvable (session : Int64) : List NativeEvent → Prop
  | [] => False
  | event :: earlier => event.session = some session ∨ (Resolvable session earlier ∧ ¬Ends session earlier event)

structure Consistent (engine : RustNativeEngine) : Prop where
  keys : ∀ payloadId, (engine.payloadContexts payloadId).isSome ↔ (engine.payloadSessions payloadId).isSome
  injective : ∀ payloadId payloadId' session, engine.payloadSessions payloadId = some session →
    engine.payloadSessions payloadId' = some session → payloadId = payloadId'
  values : ∀ session, (∃ payloadId, engine.payloadSessions payloadId = some session) ↔
    (engine.sessionContexts session).isSome
  contexts : ∀ payloadId session, engine.payloadSessions payloadId = some session →
    engine.sessionContexts session = engine.payloadContexts payloadId

def SameTables (before after : RustNativeEngine) : Prop :=
  after.payloadContexts = before.payloadContexts ∧ after.payloadSessions = before.payloadSessions ∧
    after.sessionContexts = before.sessionContexts

def ReachesAs (engine : RustNativeEngine) (session : Int64) (context : RuntimePayloadContext) : Prop :=
  engine.requireSession session = .ok context ∧ ∀ bridgeAdapter : BridgeAdapter,
    (∀ operation input, engine.invokeBridge bridgeAdapter session operation input =
      bridgeAdapter.invoke context operation input) ∧
    ∀ objectId generation, engine.retainBridgeHandle bridgeAdapter session objectId generation =
        bridgeAdapter.retainHandle context objectId generation ∧
      engine.releaseBridgeHandle bridgeAdapter session objectId generation =
        bridgeAdapter.releaseHandle context objectId generation

def Refused (engine : RustNativeEngine) (session : Int64) : Prop := ∀ bridgeAdapter : BridgeAdapter,
  (∀ operation input, engine.invokeBridge bridgeAdapter session operation input =
    .error (RustNativeEngine.unknownSession session)) ∧
  ∀ objectId generation, engine.retainBridgeHandle bridgeAdapter session objectId generation =
      .error (RustNativeEngine.unknownSession session) ∧
    engine.releaseBridgeHandle bridgeAdapter session objectId generation =
      .error (RustNativeEngine.unknownSession session)

structure Authority {Tid : Type} (s : Monitored Tid) : Prop where
  tables : ∀ r ∈ s.returned, Consistent r.before ∧ Consistent r.after
  failed : ∀ r ∈ s.returned, ∀ thrown, r.result = .error thrown → SameTables r.before r.after
  sessions : (s.events.filterMap NativeEvent.session).Pairwise (· > ·)
  resolves : s.Observable → ∀ session, Resolvable session s.events → ∃ context, ReachesAs s.engine session context
  refused : s.Observable → ∀ session, ¬Resolvable session s.events → Refused s.engine session

end RuntimeHost.Java

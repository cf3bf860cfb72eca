import RuntimeHost.Protocol.Wire
import RuntimeHost.Sdk.Reorder

namespace RuntimeHost.Protocol

open Foundation Sdk

variable {payload : Value} {es pairs : List (String × Value)} {names : List String}

theorem exactMap_eq_map (exact : exactMap payload names = .ok es) : payload = .map es := by
  unfold exactMap at exact
  split at exact
  · split at exact
    · cases exact
    · cases exact
      rfl
  · cases exact

theorem exactMap_length (exact : exactMap payload names = .ok es) : es.length = names.length := by
  have shape := exactMap_eq_map exact
  subst shape
  unfold exactMap at exact
  simp only at exact
  split at exact
  · cases exact
  · rename_i accepted
    omega

theorem field_mem {name : String} {v : Value} (found : field es name = .ok v) : (name, v) ∈ es := by
  unfold field at found
  rw [okOr_eq_ok, List.lookup_eq_some_iff] at found
  obtain ⟨before, after, rfl, -⟩ := found
  simp

theorem exactMap_perm (nodup : (pairs.map Prod.fst).Nodup)
    (exact : exactMap payload (pairs.map Prod.fst) = .ok es)
    (found : ∀ q ∈ pairs, field es q.1 = .ok q.2) : es.Perm pairs := by
  have subset : pairs ⊆ es := fun q present => field_mem (found q present)
  have length := exactMap_length exact
  rw [List.length_map] at length
  exact ((List.subperm_of_subset (List.Nodup.of_map _ nodup) subset).perm_of_length_le length.le).symm

theorem exactMap_self (pairs : List (String × Value)) :
    exactMap (.map pairs) (pairs.map Prod.fst) = .ok pairs := by
  unfold exactMap
  simp

/-- `payload` carries the fields that `body` is encoded with, in some order. -/
def PayloadOf (kind : String) (payload : Value) (body : MessageBody) : Prop :=
  ∃ found canonical, payload = .map found ∧ found.Perm canonical ∧
    body.encoded = .ok (kind, .map canonical)

theorem payloadOf_canonical {kind : String} {body : MessageBody} (pairs : List (String × Value))
    (nodup : (pairs.map Prod.fst).Nodup) (exact : exactMap payload (pairs.map Prod.fst) = .ok es)
    (found : ∀ q ∈ pairs, field es q.1 = .ok q.2)
    (canonical : body.encoded = .ok (kind, .map pairs)) : PayloadOf kind payload body :=
  ⟨es, pairs, exactMap_eq_map exact, exactMap_perm nodup exact found, canonical⟩

theorem decodeHandle_payloadOf {retain : Bool} {body : MessageBody}
    (decoded : decodeHandle payload retain = .ok body) :
    PayloadOf (if retain then "retain-handle" else "release-handle") payload body := by
  unfold decodeHandle at decoded
  simp only [bind_eq_ok, pure_eq_ok, positiveId_eq_ok_iff] at decoded
  obtain ⟨fields, exact, first, firstFound, objectId, ⟨firstId, -⟩, second, secondFound, generation,
    ⟨secondId, -⟩, made⟩ := decoded
  apply payloadOf_canonical [("objectId", first), ("generation", second)] (by simp) exact
  · simp [firstFound, secondFound]
  · cases retain <;> cases made <;> simp [MessageBody.encoded, handlePayload, firstId, secondId]

theorem parse_payloadOf {kind : String} {body : MessageBody}
    (parsed : MessageBody.parse kind payload = .ok body) : PayloadOf kind payload body := by
  unfold MessageBody.parse at parsed
  split at parsed
  case h_11 => exact decodeHandle_payloadOf parsed
  case h_12 => exact decodeHandle_payloadOf parsed
  all_goals simp only [bind_eq_ok, pure_eq_ok, string_eq_ok_iff, bytes_eq_ok_iff,
    positiveId_eq_ok_iff, nonnegativeId_eq_ok_iff, Except.ok.injEq, reduceCtorEq] at parsed
  case h_1 | h_3 | h_5 | h_6 | h_7 =>
    obtain ⟨fields, exact, rfl⟩ := parsed
    exact payloadOf_canonical [] (by simp) exact (by simp) rfl
  case h_2 =>
    obtain ⟨fields, exact, _, rootFound, packageRoot, rfl, _, entryFound, entrypoint, rfl, first,
      firstFound, pluginId, ⟨firstId, -⟩, second, secondFound, session, ⟨secondId, -⟩, rfl⟩ := parsed
    apply payloadOf_canonical [("packageRoot", .string packageRoot), ("entrypoint", .string entrypoint),
      ("pluginId", first), ("session", second)] (by simp) exact
    · simp [rootFound, entryFound, firstFound, secondFound]
    · simp [MessageBody.encoded, firstId, secondId]
  case h_4 =>
    obtain ⟨fields, exact, _, operationFound, operation, rfl, _, inputFound, input, rfl, callback,
      callbackFound, callbackId, same, rfl⟩ := parsed
    apply payloadOf_canonical [("operation", .string operation), ("input", .bytes input),
      ("callbackId", callback)] (by simp) exact
    · simp [operationFound, inputFound, callbackFound]
    · simp [MessageBody.encoded, same]
  case h_8 | h_13 =>
    obtain ⟨fields, exact, _, outputFound, output, rfl, rfl⟩ := parsed
    exact payloadOf_canonical [("output", .bytes output)] (by simp) exact (by simp [outputFound]) rfl
  case h_9 =>
    obtain ⟨fields, exact, _, codeFound, code, rfl, _, messageFound, message, rfl, rfl⟩ := parsed
    exact payloadOf_canonical [("code", .string code), ("message", .string message)] (by simp) exact
      (by simp [codeFound, messageFound]) rfl
  case h_10 =>
    obtain ⟨fields, exact, _, operationFound, operation, rfl, _, inputFound, input, rfl, rfl⟩ := parsed
    exact payloadOf_canonical [("operation", .string operation), ("input", .bytes input)] (by simp) exact
      (by simp [operationFound, inputFound]) rfl
  case h_14 =>
    obtain ⟨fields, exact, _, codeFound, code, rfl, rfl⟩ := parsed
    exact payloadOf_canonical [("code", .string code)] (by simp) exact (by simp [codeFound]) rfl

theorem requirePositive_eq_ok {identifier : UInt64} {message : String}
    (valid : requirePositive identifier message = .ok ()) : 0 < identifier := by
  unfold requirePositive at valid
  split at valid
  · cases valid
  · rename_i inside
    exact UInt64.pos_iff_ne_zero.mpr fun zero => inside (.inl zero)

theorem decodeHandle_self {objectId generation : UInt64} (retain : Bool) (first : 0 < objectId)
    (second : 0 < generation) (encoded : handlePayload objectId generation = .ok payload) :
    decodeHandle payload retain =
      .ok (if retain then .retainHandle objectId generation else .releaseHandle objectId generation) := by
  unfold handlePayload at encoded
  simp only [bind_eq_ok, pure_eq_ok] at encoded
  obtain ⟨v, firstId, w, secondId, made⟩ := encoded
  cases made
  have exact := exactMap_self [("objectId", v), ("generation", w)]
  have firstRead := positiveId_eq_ok_iff.mpr ⟨firstId, first⟩
  have secondRead := positiveId_eq_ok_iff.mpr ⟨secondId, second⟩
  unfold decodeHandle
  simp only [List.map_cons, List.map_nil] at exact
  rw [exact]
  simp [field, List.lookup, firstRead, secondRead, okOr]

theorem parse_encoded {kind : String} {body : MessageBody} (valid : body.validate = .ok ())
    (encoded : body.encoded = .ok (kind, payload)) : MessageBody.parse kind payload = .ok body := by
  cases body
  case load packageRoot entrypoint pluginId session =>
    simp only [MessageBody.encoded, bind_eq_ok, pure_eq_ok] at encoded
    obtain ⟨v, firstId, w, secondId, made⟩ := encoded
    cases made
    simp only [MessageBody.validate, bind_eq_ok] at valid
    obtain ⟨_, -, _, -, _, first, second⟩ := valid
    have firstRead := positiveId_eq_ok_iff.mpr ⟨firstId, requirePositive_eq_ok first⟩
    have secondRead := positiveId_eq_ok_iff.mpr ⟨secondId, requirePositive_eq_ok second⟩
    simp [MessageBody.parse, exactMap, field, okOr, List.lookup, string, firstRead, secondRead]
  case invoke operation input callbackId =>
    simp only [MessageBody.encoded, bind_eq_ok, pure_eq_ok] at encoded
    obtain ⟨v, same, made⟩ := encoded
    cases made
    have read := nonnegativeId_eq_ok_iff.mpr same
    simp [MessageBody.parse, exactMap, field, okOr, List.lookup, string, bytes, read]
  case retainHandle objectId generation =>
    simp only [MessageBody.encoded, bind_eq_ok, pure_eq_ok] at encoded
    obtain ⟨payload, handle, made⟩ := encoded
    cases made
    simp only [MessageBody.validate, bind_eq_ok] at valid
    obtain ⟨_, first, second⟩ := valid
    exact decodeHandle_self true (requirePositive_eq_ok first) (requirePositive_eq_ok second) handle
  case releaseHandle objectId generation =>
    simp only [MessageBody.encoded, bind_eq_ok, pure_eq_ok] at encoded
    obtain ⟨payload, handle, made⟩ := encoded
    cases made
    simp only [MessageBody.validate, bind_eq_ok] at valid
    obtain ⟨_, first, second⟩ := valid
    exact decodeHandle_self false (requirePositive_eq_ok first) (requirePositive_eq_ok second) handle
  all_goals
    cases encoded
    simp [MessageBody.parse, exactMap, field, okOr, List.lookup, string, bytes]

theorem fromValue_eq_ok_iff {kind : String} {body : MessageBody} :
    MessageBody.fromValue kind payload = .ok body ↔
      MessageBody.parse kind payload = .ok body ∧ body.validate = .ok () := by
  unfold MessageBody.fromValue
  simp only [bind_eq_ok, pure_eq_ok, Except.ok.injEq]
  constructor
  · intro ⟨made, parsed, _, valid, same⟩
    subst same
    exact ⟨parsed, valid⟩
  · intro ⟨parsed, valid⟩
    exact ⟨body, parsed, (), valid, rfl⟩

def envelope (requestId : Int64) (kind : String) (payload : Value) : List (String × Value) :=
  [("protocolVersion", .integer protocolVersion), ("requestId", .integer requestId),
    ("kind", .string kind), ("payload", payload)]

theorem Message.toWire_eq_ok_iff (m : Message) (b : List UInt8) :
    m.toWire = .ok b ↔ ∃ kind payload requestId, m.body.encoded = .ok (kind, payload) ∧
      signed m.requestId = some requestId ∧
      (Value.map (envelope requestId kind payload)).toWire = .ok b := by
  have valid := (checkMessage_eq_ok_iff.mp m.accepted).2.2.2
  unfold Message.toWire MessageBody.toValue
  simp only [valid, ok_bind, bind_eq_ok, okOr_eq_ok, orError_ok, Prod.exists]
  constructor
  · rintro ⟨kind, payload, encoded, requestId, same, wire⟩
    exact ⟨kind, payload, requestId, encoded, same, wire⟩
  · rintro ⟨kind, payload, requestId, encoded, same, wire⟩
    exact ⟨kind, payload, encoded, requestId, same, wire⟩

theorem Message.fromWire_eq_ok_iff (b : List UInt8) (m : Message) :
    Message.fromWire b = .ok m ↔ ∃ es requestId kind payload,
      Value.fromWire b = .ok (.map es) ∧
      exactMap (.map es) ["protocolVersion", "requestId", "kind", "payload"] = .ok es ∧
      field es "protocolVersion" = .ok (.integer protocolVersion) ∧
      field es "requestId" = .ok (.integer requestId) ∧ signed m.requestId = some requestId ∧
      field es "kind" = .ok (.string kind) ∧ field es "payload" = .ok payload ∧
      MessageBody.parse kind payload = .ok m.body := by
  have check := checkMessage_eq_ok_iff.mp m.accepted
  unfold Message.fromWire
  simp only [bind_eq_ok, orError_ok, ite_error_eq_ok, not_not, integer_eq_ok_iff, string_eq_ok_iff,
    positiveId_eq_ok_iff, fromValue_eq_ok_iff, Message.new_eq_ok_iff, idValue_eq_ok_iff]
  constructor
  · rintro ⟨v, read, es, exact, _, versionFound, _, rfl, rfl, _, idFound, _, ⟨⟨i, same, rfl⟩, -⟩, _, kindFound,
      kind, rfl, payload, payloadFound, _, ⟨parsed, -⟩, rfl, rfl⟩
    have map := exactMap_eq_map exact
    subst map
    exact ⟨es, i, kind, payload, read, exact, versionFound, idFound, same, kindFound, payloadFound, parsed⟩
  · rintro ⟨es, i, kind, payload, read, exact, versionFound, idFound, same, kindFound, payloadFound, parsed⟩
    exact ⟨_, read, es, exact, _, versionFound, _, rfl, rfl, _, idFound, _,
      ⟨⟨i, same, rfl⟩, UInt64.pos_iff_ne_zero.mpr check.1⟩, _, kindFound, kind, rfl, payload, payloadFound,
      m.body, ⟨parsed, check.2.2.2⟩, rfl, rfl⟩

theorem Message.fromWire_toWire {m : Message} {b : List UInt8} (encoded : m.toWire = .ok b) :
    Message.fromWire b = .ok m := by
  rw [Message.toWire_eq_ok_iff] at encoded
  obtain ⟨kind, payload, requestId, body, same, wire⟩ := encoded
  have valid := (checkMessage_eq_ok_iff.mp m.accepted).2.2.2
  rw [Message.fromWire_eq_ok_iff]
  refine ⟨envelope requestId kind payload, requestId, kind, payload, ?_, ?_, ?_, ?_, same, ?_, ?_,
    parse_encoded valid body⟩
  · exact (toWire_ok_iff_fromWire_ok _ _).mp wire
  · exact exactMap_self (envelope requestId kind payload)
  all_goals simp [field, envelope, List.lookup, okOr]

/-- The same fields, in another order inside the envelope map and inside the payload map. -/
def SameFields (b b' : List UInt8) : Prop :=
  ∃ before payload after payload' envelope',
    Value.fromWire b = .ok (.map (before ++ ("payload", .map payload) :: after)) ∧
    Value.fromWire b' = .ok (.map envelope') ∧
    payload.Perm payload' ∧ (before ++ ("payload", .map payload') :: after).Perm envelope'

theorem perm_replace {before after : List (String × Value)} (rest : List (String × Value))
    {p p' : String × Value}
    (reordered : (before ++ p :: after).Perm (rest ++ [p])) :
    (before ++ p' :: after).Perm (rest ++ [p']) := by
  have front : (p :: (before ++ after)).Perm (p :: rest) :=
    List.perm_middle.symm.trans (reordered.trans (List.perm_append_singleton p rest))
  exact List.perm_middle.trans ((front.cons_inv.cons p').trans (List.perm_append_singleton p' rest).symm)

theorem Message.toWire_of_fromWire {m : Message} {b : List UInt8} (decoded : Message.fromWire b = .ok m) :
    ∃ b', m.toWire = .ok b' ∧ b'.length = b.length ∧ SameFields b b' := by
  rw [Message.fromWire_eq_ok_iff] at decoded
  obtain ⟨es, i, kind, _, read, exact, versionFound, idFound, same, kindFound, payloadFound, parsed⟩ := decoded
  obtain ⟨found, canonical, rfl, payloadPerm, encoded⟩ := parse_payloadOf parsed
  have envelopePerm : es.Perm (envelope i kind (.map found)) := by
    apply exactMap_perm (by simp [envelope]) exact
    simp [envelope, versionFound, idFound, kindFound, payloadFound]
  obtain ⟨before, after, rfl⟩ := List.append_of_mem (field_mem payloadFound)
  have canonicalPerm : (before ++ ("payload", .map canonical) :: after).Perm
      (envelope i kind (.map canonical)) := perm_replace ((envelope i kind .null).take 3) envelopePerm
  obtain ⟨encodable, rfl⟩ := (Sdk.fromWire_eq_ok_iff _ _).mp read
  have replaced := map_encodable_replace (map_footprint_perm payloadPerm)
    (fun _ fits => map_fits_perm payloadPerm fits) encodable
  have size : Footprint.SameSize _ (Value.map (envelope i kind (.map canonical))).footprint :=
    (map_footprint_replace (map_footprint_perm payloadPerm)).trans (map_footprint_perm canonicalPerm)
  have wire := (Sdk.toWire_eq_ok_iff _ _).mpr ⟨map_encodable_perm canonicalPerm replaced, rfl⟩
  refine ⟨_, (Message.toWire_eq_ok_iff _ _).mpr ⟨kind, _, i, encoded, same, wire⟩, size.wire.symm, ?_⟩
  exact ⟨before, found, after, canonical, _, read, (toWire_ok_iff_fromWire_ok _ _).mp wire, payloadPerm,
    canonicalPerm⟩

/-- The grammar of messages: what `Message::new` admits, `to_wire` writes and `from_wire` accepts. -/
theorem message_wire_grammar :
    (∀ requestId body m b, Message.new requestId body = .ok m → m.toWire = .ok b →
      Message.fromWire b = .ok m) ∧
    ∀ b m, Message.fromWire b = .ok m →
      (m.requestId ≠ 0 ∧ m.requestId ≤ i64Max ∧
        (m.requestId % 2 = 0 ↔ m.body.usesEvenRequestId = true) ∧ m.body.validate = .ok ()) ∧
      ∃ b', m.toWire = .ok b' ∧ b'.length = b.length ∧ SameFields b b' := by
  constructor
  · intro requestId body m b _ encoded
    exact Message.fromWire_toWire encoded
  · intro b m decoded
    exact ⟨checkMessage_eq_ok_iff.mp m.accepted, Message.toWire_of_fromWire decoded⟩

end RuntimeHost.Protocol

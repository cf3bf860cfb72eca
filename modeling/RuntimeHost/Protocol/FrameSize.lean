import RuntimeHost.Protocol.Frame

namespace RuntimeHost.Protocol

open Foundation Sdk

section Sizes

variable (key text : String) (bytes : List UInt8) (i : Int64) (v : Value) (es : List (String × Value))

theorem entriesFootprint_cons_size :
    (entriesFootprint ((key, v) :: es)).wire.length =
        6 + (utf8 key).length + v.footprint.wire.length + (entriesFootprint es).wire.length ∧
      (entriesFootprint ((key, v) :: es)).content =
        (utf8 key).length + v.footprint.content + (entriesFootprint es).content ∧
      (entriesFootprint ((key, v) :: es)).values = v.footprint.values + (entriesFootprint es).values := by
  simp only [Footprint.bytes, Footprint.text, entriesFootprint_cons, Footprint.append_wire, Footprint.append_content,
    Footprint.append_values, List.length_append, List.length_cons, List.length_nil, bigEndian_length]
  omega

theorem entriesFootprint_nil_size :
    (entriesFootprint []).wire.length = 0 ∧ (entriesFootprint []).content = 0 ∧
      (entriesFootprint []).values = 0 := by
  simp [Footprint.zero]

theorem string_size :
    (Value.string text).footprint.wire.length = 7 + (utf8 text).length ∧
      (Value.string text).footprint.content = (utf8 text).length ∧ (Value.string text).footprint.values = 1 := by
  refine ⟨?_, ?_, ?_⟩ <;> simp [Value.footprint, Value.payload, Footprint.node, Footprint.text]
  omega

theorem bytes_size :
    (Value.bytes bytes).footprint.wire.length = 7 + bytes.length ∧
      (Value.bytes bytes).footprint.content = bytes.length ∧ (Value.bytes bytes).footprint.values = 1 := by
  refine ⟨?_, ?_, ?_⟩ <;> simp [Value.footprint, Value.payload, Footprint.node]
  omega

theorem integer_size :
    (Value.integer i).footprint.wire.length = 11 ∧ (Value.integer i).footprint.content = 0 ∧
      (Value.integer i).footprint.values = 1 := by
  simp [Value.footprint, Value.payload, Footprint.node, Footprint.bytes]

theorem map_size :
    (Value.map es).footprint.wire.length = 7 + (entriesFootprint es).wire.length ∧
      (Value.map es).footprint.content = (entriesFootprint es).content ∧
      (Value.map es).footprint.values = 1 + (entriesFootprint es).values := by
  simp only [Value.footprint, Value.payload, Footprint.node, Footprint.bytes, Footprint.append_wire,
    Footprint.append_content, Footprint.append_values, List.length_append, List.length_cons, List.length_nil,
    bigEndian_length]
  omega

end Sizes

theorem envelope_footprint (requestId : Int64) (kind : String) (pairs : List (String × Value)) :
    let whole := (Value.map (envelope requestId kind (.map pairs))).footprint
    let fields := entriesFootprint pairs
    whole.wire.length = 102 + (utf8 kind).length + fields.wire.length ∧
      whole.content = 35 + (utf8 kind).length + fields.content ∧ whole.values = 5 + fields.values := by
  have version : (utf8 "protocolVersion").length = 15 := by decide
  have identifier : (utf8 "requestId").length = 9 := by decide
  have kindKey : (utf8 "kind").length = 4 := by decide
  have payload : (utf8 "payload").length = 7 := by decide
  simp only [envelope, map_size, entriesFootprint_cons_size, entriesFootprint_nil_size, string_size, integer_size,
    version, identifier, kindKey, payload]
  omega

/-- When the payload fields leave room for the envelope in all of the limits. -/
structure Roomy (kind : String) (pairs : List (String × Value)) : Prop where
  short : (utf8 kind).length ≤ maxStringBytes
  count : pairs.length ≤ maxContainerEntries
  nodup : (pairs.map Prod.fst).Nodup
  fit : entriesFit (maxDepth - 1) pairs
  content : 35 + (utf8 kind).length + (entriesFootprint pairs).content ≤ maxTotalContentBytes
  values : 5 + (entriesFootprint pairs).values ≤ maxTotalValues
  wire : 102 + (utf8 kind).length + (entriesFootprint pairs).wire.length ≤ maxFrameBytes

theorem frame_isOk_iff {m : Message} {kind : String} {pairs : List (String × Value)}
    (encoded : m.body.encoded = .ok (kind, .map pairs)) : (∃ bytes, frame m = .ok bytes) ↔ Roomy kind pairs := by
  obtain ⟨requestId, same⟩ : ∃ requestId, signed m.requestId = some requestId :=
    ⟨_, if_pos (checkMessage_eq_ok_iff.mp m.accepted).2.1⟩
  have size := envelope_footprint requestId kind pairs
  have version : (utf8 "protocolVersion").length ≤ maxStringBytes := by decide
  have identifier : (utf8 "requestId").length ≤ maxStringBytes := by decide
  have kindKey : (utf8 "kind").length ≤ maxStringBytes := by decide
  have payload : (utf8 "payload").length ≤ maxStringBytes := by decide
  have fits : (Value.map (envelope requestId kind (.map pairs))).Fits (maxDepth + 1) ↔
      (utf8 kind).length ≤ maxStringBytes ∧ pairs.length ≤ maxContainerEntries ∧ (pairs.map Prod.fst).Nodup ∧
        entriesFit (maxDepth - 1) pairs := by
    simp [Value.Fits, envelope, entriesFit, version, identifier, kindKey, payload, maxDepth, maxContainerEntries]
  constructor
  · rintro ⟨bytes, framed⟩
    obtain ⟨body, wire, -, bound, -⟩ := frame_eq_ok_iff.mp framed
    obtain ⟨kind', payload', requestId', encoded', same', wire'⟩ := (Message.toWire_eq_ok_iff _ _).mp wire
    rw [encoded] at encoded'
    rw [same] at same'
    cases encoded'
    cases same'
    obtain ⟨⟨fit, content, values⟩, rfl⟩ := (Sdk.toWire_eq_ok_iff _ _).mp wire'
    obtain ⟨short, count, nodup, inner⟩ := fits.mp fit
    exact ⟨short, count, nodup, inner, by omega, by omega, by omega⟩
  · intro roomy
    have encodable : (Value.map (envelope requestId kind (.map pairs))).Encodable :=
      ⟨fits.mpr ⟨roomy.short, roomy.count, roomy.nodup, roomy.fit⟩, by have := roomy.content; omega,
        by have := roomy.values; omega⟩
    have wire := (Message.toWire_eq_ok_iff m _).mpr
      ⟨kind, _, requestId, encoded, same, (Sdk.toWire_eq_ok_iff _ _).mpr ⟨encodable, rfl⟩⟩
    have bound := roomy.wire
    exact ⟨_, frame_eq_ok_iff.mpr ⟨_, wire, by omega, by omega, rfl⟩⟩

theorem frame_result_isOk_iff {m : Message} {output : List UInt8} (result : m.body = .result output) :
    (∃ bytes, frame m = .ok bytes) ↔ output.length ≤ 16777089 := by
  have encoded : m.body.encoded = .ok ("result", .map [("output", .bytes output)]) := by rw [result]; rfl
  have kind : (utf8 "result").length = 6 := by decide
  have key : (utf8 "output").length = 6 := by decide
  rw [frame_isOk_iff encoded]
  constructor
  · intro roomy
    have wire := roomy.wire
    simp only [entriesFootprint_cons_size, entriesFootprint_nil_size, bytes_size, kind, key, maxFrameBytes] at wire
    omega
  · intro bound
    constructor <;>
      simp only [entriesFootprint_cons_size, entriesFootprint_nil_size, bytes_size, kind, key, entriesFit, Value.Fits,
        maxStringBytes, maxContainerEntries, maxByteBytes, maxDepth, maxTotalContentBytes, maxTotalValues,
        maxFrameBytes, List.map_cons, List.map_nil, List.nodup_singleton, List.length_cons, List.length_nil,
        and_true] <;>
      omega

theorem frame_error_isOk {m : Message} {code message : String} (error : m.body = .error code message) :
    ∃ bytes, frame m = .ok bytes := by
  have encoded : m.body.encoded = .ok ("error", .map [("code", .string code), ("message", .string message)]) := by
    rw [error]; rfl
  have kind : (utf8 "error").length = 5 := by decide
  have codeKey : (utf8 "code").length = 4 := by decide
  have messageKey : (utf8 "message").length = 7 := by decide
  have valid := (checkMessage_eq_ok_iff.mp m.accepted).2.2.2
  rw [error] at valid
  simp only [MessageBody.validate, bind_eq_ok, requireCode, ite_error_eq_ok, not_lt] at valid
  obtain ⟨_, named, _, -, short, -⟩ := valid
  have codeShort : (utf8 code).length ≤ 128 := by
    split at named
    · exact (not_lt.mp (ite_error_eq_ok.mp named).1)
    · cases named
  rw [frame_isOk_iff encoded]
  constructor
  case nodup => simp
  all_goals
    simp only [entriesFootprint_cons_size, entriesFootprint_nil_size, string_size, kind, codeKey, messageKey,
      entriesFit, Value.Fits, maxStringBytes, maxContainerEntries, maxDepth, maxTotalContentBytes, maxTotalValues,
      maxFrameBytes, List.length_cons, List.length_nil, and_true]
    omega

theorem frame_empty_isOk {m : Message} {kind : String} (encoded : m.body.encoded = .ok (kind, .map []))
    (short : (utf8 kind).length ≤ 100) : ∃ bytes, frame m = .ok bytes := by
  rw [frame_isOk_iff encoded]
  constructor <;>
    simp only [entriesFootprint_nil_size, entriesFit, maxStringBytes, maxContainerEntries, maxTotalContentBytes,
      maxTotalValues, maxFrameBytes, List.map_nil, List.nodup_nil, List.length_nil] <;>
    omega

theorem frame_ok_isOk {m : Message} (ok : m.body = .ok) : ∃ bytes, frame m = .ok bytes := by
  have encoded : m.body.encoded = .ok ("ok", .map []) := by rw [ok]; rfl
  exact frame_empty_isOk encoded (by decide)

theorem frame_retainHandle_isOk {m : Message} {objectId generation : UInt64}
    (retain : m.body = .retainHandle objectId generation) : ∃ bytes, frame m = .ok bytes := by
  have valid := (checkMessage_eq_ok_iff.mp m.accepted).2.2.2
  rw [retain] at valid
  simp only [MessageBody.validate, requirePositive, bind_eq_ok, ite_error_eq_ok, not_or, UInt64.not_lt] at valid
  obtain ⟨_, first, second⟩ := valid
  have encoded : m.body.encoded = .ok ("retain-handle",
      .map [("objectId", .integer objectId.toInt64), ("generation", .integer generation.toInt64)]) := by
    rw [retain, MessageBody.encoded, handlePayload, idValue_ok first.1.2, idValue_ok second.1.2]
    rfl
  have kind : (utf8 "retain-handle").length = 13 := by decide
  have objectKey : (utf8 "objectId").length = 8 := by decide
  have generationKey : (utf8 "generation").length = 10 := by decide
  rw [frame_isOk_iff encoded]
  constructor
  case nodup => simp
  all_goals
    simp only [entriesFootprint_cons_size, entriesFootprint_nil_size, integer_size, kind, objectKey, generationKey,
      entriesFit, Value.Fits, maxStringBytes, maxContainerEntries, maxDepth, maxTotalContentBytes, maxTotalValues,
      maxFrameBytes, List.length_cons, List.length_nil, and_true]
    decide

theorem frame_callbackResult_nil_isOk {m : Message} (empty : m.body = .callbackResult []) :
    ∃ bytes, frame m = .ok bytes := by
  have encoded : m.body.encoded = .ok ("callback-result", .map [("output", .bytes [])]) := by rw [empty]; rfl
  have kind : (utf8 "callback-result").length = 15 := by decide
  have key : (utf8 "output").length = 6 := by decide
  rw [frame_isOk_iff encoded]
  constructor <;>
    simp only [entriesFootprint_cons_size, entriesFootprint_nil_size, bytes_size, kind, key, entriesFit, Value.Fits,
      maxStringBytes, maxContainerEntries, maxByteBytes, maxDepth, maxTotalContentBytes, maxTotalValues,
      maxFrameBytes, List.map_cons, List.map_nil, List.nodup_singleton, List.length_cons, List.length_nil, and_true] <;>
    decide

end RuntimeHost.Protocol

import RuntimeHost.Sdk.EncoderExact

namespace RuntimeHost.Sdk

open Foundation

mutual

theorem footprint_size (v : Value) (levels : Nat) (fits : v.Fits levels) :
    v.footprint.wire.length + 6 ≤ v.footprint.content + 160 * v.footprint.values := by
  unfold Value.Fits at fits
  cases v with
  | array vs =>
    have inside := elementsFootprint_size vs (levels - 1) fits.2.2
    simp only [Value.footprint, Value.payload, Footprint.node, Footprint.bytes, Footprint.append_wire,
      Footprint.append_content, Footprint.append_values, List.length_append, List.length_cons, List.length_nil,
      bigEndian_length]
    omega
  | map es =>
    have inside := entriesFootprint_size es (levels - 1) fits.2.2.2
    simp only [Value.footprint, Value.payload, Footprint.node, Footprint.bytes, Footprint.append_wire,
      Footprint.append_content, Footprint.append_values, List.length_append, List.length_cons, List.length_nil,
      bigEndian_length]
    omega
  | handle h =>
    have short := HandleValue.typeName_le_of_new fits.2
    simp only [Value.footprint, Value.payload, Footprint.node, Footprint.bytes, Footprint.metadata,
      Footprint.append_wire, Footprint.append_content, Footprint.append_values, List.length_append, List.length_cons,
      List.length_nil, bigEndian_length]
    omega
  | error e =>
    have short := wireCode_size_le e.code
    simp only [Value.footprint, Value.payload, Footprint.node, Footprint.bytes, Footprint.metadata,
      Footprint.append_wire, Footprint.append_content, Footprint.append_values, List.length_append, List.length_cons,
      List.length_nil, bigEndian_length]
    omega
  | _ =>
    simp only [Value.footprint, Value.payload, Footprint.node, Footprint.bytes, Footprint.text,
      Footprint.append_wire, Footprint.append_content, Footprint.append_values, List.length_append, List.length_cons,
      List.length_nil, bigEndian_length]
    omega

theorem elementsFootprint_size (vs : List Value) (levels : Nat) (fit : elementsFit levels vs) :
    (elementsFootprint vs).wire.length ≤ (elementsFootprint vs).content + 160 * (elementsFootprint vs).values := by
  cases vs with
  | nil => simp [Footprint.zero]
  | cons v vs =>
    unfold elementsFit at fit
    have first := footprint_size v levels fit.1
    have others := elementsFootprint_size vs levels fit.2
    simp only [elementsFootprint_cons, Footprint.append_wire, Footprint.append_content, Footprint.append_values,
      List.length_append]
    omega

theorem entriesFootprint_size (es : List (String × Value)) (levels : Nat) (fit : entriesFit levels es) :
    (entriesFootprint es).wire.length ≤ (entriesFootprint es).content + 160 * (entriesFootprint es).values := by
  rcases es with _ | ⟨⟨key, v⟩, es⟩
  · simp [Footprint.zero]
  · unfold entriesFit at fit
    have first := footprint_size v levels fit.2.1
    have others := entriesFootprint_size es levels fit.2.2
    simp only [entriesFootprint_cons, Footprint.bytes, Footprint.text, Footprint.append_wire,
      Footprint.append_content, Footprint.append_values, List.length_append, List.length_cons, List.length_nil,
      bigEndian_length]
    omega

end

theorem toWire_size {v : Value} {wire : List UInt8} (encoded : v.toWire = .ok wire) :
    0 < wire.length ∧ wire.length < 2 ^ 32 := by
  obtain ⟨⟨fits, content, values⟩, rfl⟩ := (toWire_eq_ok_iff v wire).mp encoded
  have size := footprint_size v _ fits
  have bounds : maxTotalContentBytes = 16 * 1024 * 1024 ∧ maxTotalValues = 65536 := ⟨rfl, rfl⟩
  constructor
  · simp [Value.footprint, Footprint.node]
  · omega

end RuntimeHost.Sdk

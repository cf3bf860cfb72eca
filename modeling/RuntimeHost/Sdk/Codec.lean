import RuntimeHost.Sdk.DecoderExact
import RuntimeHost.Sdk.EncoderExact

namespace RuntimeHost.Sdk

/-- The encoder and the decoder are inverse partial functions. -/
theorem toWire_ok_iff_fromWire_ok (v : Value) (b : List UInt8) :
    v.toWire = .ok b ↔ Value.fromWire b = .ok v := by
  rw [toWire_eq_ok_iff, fromWire_eq_ok_iff]

theorem eq_of_footprint_start {v w : Value} {input : List UInt8} (left : v.Encodable) (right : w.Encodable)
    (before : v.footprint.wire <+: input) (before' : w.footprint.wire <+: input) : v = w := by
  have first := decoder_value_eq_ok_iff.mpr ⟨left, before, rfl⟩
  have second := decoder_value_eq_ok_iff.mpr ⟨right, before', rfl⟩
  rw [first] at second
  cases second
  rfl

theorem eq_of_fromWire_start {b b' : List UInt8} {v v' : Value} (accepted : Value.fromWire b = .ok v)
    (accepted' : Value.fromWire b' = .ok v') (before : b <+: b') : b = b' := by
  obtain ⟨left, rfl⟩ := (fromWire_eq_ok_iff b v).mp accepted
  obtain ⟨right, rfl⟩ := (fromWire_eq_ok_iff b' v').mp accepted'
  rw [eq_of_footprint_start left right before List.prefix_rfl]

/-- Of the prefixes and extensions of accepted bytes none but the bytes themselves is accepted, or is the encoding of
a value. -/
theorem fromWire_self_delimiting {b b' : List UInt8} {v : Value} (accepted : Value.fromWire b = .ok v)
    (cut : b' <+: b ∨ b <+: b') (proper : b' ≠ b) :
    (∃ error, Value.fromWire b' = .error error) ∧ ∀ w : Value, w.toWire ≠ .ok b' := by
  have rejected : ∀ w, Value.fromWire b' ≠ .ok w := by
    intro w decoded
    rcases cut with shorter | longer
    · exact proper (eq_of_fromWire_start decoded accepted shorter)
    · exact proper (eq_of_fromWire_start accepted decoded longer).symm
  constructor
  · cases decoded : Value.fromWire b' with
    | error error => exact ⟨error, rfl⟩
    | ok w => exact absurd decoded (rejected w)
  · intro w encoded
    rw [toWire_eq_ok_iff, ← fromWire_eq_ok_iff] at encoded
    exact rejected w encoded

/-- An array that ends inside its last string is turned down. -/
theorem fromWire_self_delimiting_array :
    (∃ error, Value.fromWire [0x92, 6, 0xdd, 0, 0, 0, 2, 0x92, 0, 0xc0, 0x92, 4, 0xdb, 0, 0, 0, 2, 0x61] = .error error) ∧
      ∀ w : Value, w.toWire ≠ .ok [0x92, 6, 0xdd, 0, 0, 0, 2, 0x92, 0, 0xc0, 0x92, 4, 0xdb, 0, 0, 0, 2, 0x61] := by
  have accepted : Value.fromWire [0x92, 6, 0xdd, 0, 0, 0, 2, 0x92, 0, 0xc0, 0x92, 4, 0xdb, 0, 0, 0, 2, 0x61, 0x62] =
      .ok (.array [.null, .string "ab"]) := by
    refine (fromWire_eq_ok_iff _ _).mpr ⟨⟨?_, ?_, ?_⟩, by decide⟩
    · simp only [Value.Fits, elementsFit]
      decide
    · decide
    · decide
  exact fromWire_self_delimiting accepted (.inl ⟨[0x62], rfl⟩) (by decide)

end RuntimeHost.Sdk

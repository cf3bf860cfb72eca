import RuntimeHost.Sdk.Footprint

namespace RuntimeHost.Sdk

open Foundation

namespace Decoder

def rest (d : Decoder) : List UInt8 := d.input.drop d.offset

def Valid (d : Decoder) : Prop :=
  d.contentBytes ≤ maxTotalContentBytes ∧ d.values ≤ maxTotalValues ∧ d.offset ≤ d.input.length

def spend (d : Decoder) (f : Footprint) : Decoder :=
  { d with
    offset := d.offset + f.wire.length
    contentBytes := d.contentBytes + f.content
    values := d.values + f.values }

theorem spend_append (d : Decoder) (f g : Footprint) : d.spend (f ++ g) = (d.spend f).spend g := by
  simp [spend, Nat.add_assoc]

theorem rest_spend (d : Decoder) (f : Footprint) : (d.spend f).rest = d.rest.drop f.wire.length := by
  simp [rest, spend, List.drop_drop]

theorem append_prefix_rest {d : Decoder} {f g : Footprint} :
    (f ++ g).wire <+: d.rest ↔ f.wire <+: d.rest ∧ g.wire <+: (d.spend f).rest := by
  rw [rest_spend, Footprint.append_wire]
  constructor
  · rintro ⟨after, whole⟩
    rw [← whole]
    exact ⟨⟨g.wire ++ after, by simp⟩, ⟨after, by simp⟩⟩
  · rintro ⟨⟨after, whole⟩, more⟩
    rw [← whole] at more ⊢
    rw [List.drop_left] at more
    exact List.prefix_append_right_inj _ |>.mpr more

theorem spend_valid {d : Decoder} {f : Footprint} (valid : d.Valid)
    (within : f.Within d.contentBytes d.values) (present : f.wire <+: d.rest) : (d.spend f).Valid := by
  refine ⟨within.1, within.2, ?_⟩
  have short := present.length_le
  rw [rest, List.length_drop] at short
  have inside := valid.2.2
  simp only [spend]
  omega

end Decoder

/-- A decoder step succeeds exactly on the footprints that `R` relates to its result: they have to be
    next in the input and to fit in the budgets. -/
def Reads {α : Type} (p : Decode α) (R : α → Footprint → Prop) : Prop :=
  ∀ (d : Decoder) (a : α) (d' : Decoder), d.Valid →
    (p.run d = .ok (a, d') ↔
      ∃ f, R a f ∧ f.Within d.contentBytes d.values ∧ f.wire <+: d.rest ∧ d' = d.spend f)

namespace Reads

variable {α β : Type} {p : Decode α} {q : α → Decode β} {R : α → Footprint → Prop}

theorem congr {S : α → Footprint → Prop} (hp : Reads p R) (same : ∀ a f, R a f ↔ S a f) : Reads p S := by
  intro d a d' valid
  rw [hp d a d' valid]
  simp only [same]

theorem bind {S : α → β → Footprint → Prop} (hp : Reads p R) (hq : ∀ a, Reads (q a) (S a)) :
    Reads (p >>= q) fun b f => ∃ a g h, R a g ∧ S a b h ∧ f = g ++ h := by
  intro d b d' valid
  rw [run_bind_eq_ok]
  constructor
  · rintro ⟨a, middle, first, second⟩
    obtain ⟨g, left, within, present, rfl⟩ := (hp d a middle valid).mp first
    have kept := Decoder.spend_valid valid within present
    obtain ⟨h, right, more, next, rfl⟩ := (hq a _ b d' kept).mp second
    exact ⟨g ++ h, ⟨a, g, h, left, right, rfl⟩, Footprint.within_append.mpr ⟨within, more⟩,
      Decoder.append_prefix_rest.mpr ⟨present, next⟩, (Decoder.spend_append d g h).symm⟩
  · rintro ⟨_, ⟨a, g, h, left, right, rfl⟩, within, present, rfl⟩
    obtain ⟨within, more⟩ := Footprint.within_append.mp within
    obtain ⟨present, next⟩ := Decoder.append_prefix_rest.mp present
    have kept := Decoder.spend_valid valid within present
    refine ⟨a, d.spend g, (hp d a _ valid).mpr ⟨g, left, within, present, rfl⟩, ?_⟩
    exact (hq a _ b _ kept).mpr ⟨h, right, more, next, Decoder.spend_append d g h⟩

theorem pure (a : α) : Reads (Pure.pure a) fun b f => b = a ∧ f = .zero := by
  intro d b d' valid
  have within : Footprint.zero.Within d.contentBytes d.values := ⟨valid.1, valid.2.1⟩
  have same : d.spend .zero = d := by simp [Decoder.spend, Footprint.zero]
  constructor
  · rintro ⟨⟩
    exact ⟨.zero, ⟨rfl, rfl⟩, within, List.nil_prefix, same.symm⟩
  · rintro ⟨_, ⟨rfl, rfl⟩, -, -, rfl⟩
    rw [same]
    rfl

theorem fail (error : Error) : Reads (throw error : Decode α) fun _ _ => False := by
  intro d a d' valid
  simp

theorem map (hp : Reads p R) (g : α → β) :
    Reads (p >>= fun a => Pure.pure (g a)) fun b f => ∃ a, R a f ∧ b = g a := by
  refine (hp.bind fun a => pure (g a)).congr ?_
  intro b f
  constructor
  · rintro ⟨a, g', _, related, ⟨rfl, rfl⟩, rfl⟩
    exact ⟨a, by simpa using related, rfl⟩
  · rintro ⟨a, related, rfl⟩
    exact ⟨a, f, .zero, related, ⟨rfl, rfl⟩, by simp⟩

theorem ite {c : Prop} [Decidable c] {left right : Decode α} {S : α → Footprint → Prop}
    (hl : c → Reads left R) (hr : ¬c → Reads right S) :
    Reads (if c then left else right) fun a f => (c ∧ R a f) ∨ (¬c ∧ S a f) := by
  split
  · rename_i holds
    exact (hl holds).congr fun a f => by simp [holds]
  · rename_i fails
    exact (hr fails).congr fun a f => by simp [fails]

theorem byte : Reads Decoder.byte fun b f => f = .bytes [b] := by
  intro d b d' valid
  have within : (Footprint.bytes [b]).Within d.contentBytes d.values := ⟨valid.1, valid.2.1⟩
  have next : d.input[d.offset]? = d.rest.head? := by
    simp [Decoder.rest, List.head?_drop]
  simp only [exists_eq_left, within, true_and]
  cases found : d.rest with
  | nil =>
    rw [found] at next
    simp [Decoder.byte, next, Footprint.bytes]
  | cons first after =>
    rw [found] at next
    simp [Decoder.byte, next, Decoder.spend, Footprint.bytes, List.cons_prefix_cons, eq_comm]

theorem expect (expected : UInt8) :
    Reads (Decoder.expect expected) fun _ f => f = .bytes [expected] := by
  refine (byte.bind fun b => ite (fun _ => pure ()) (fun _ => fail _)).congr ?_
  intro u f
  constructor
  · rintro ⟨b, g, h, rfl, ⟨same, -, rfl⟩ | ⟨-, impossible⟩, rfl⟩
    · simp [same]
    · exact impossible.elim
  · rintro rfl
    exact ⟨expected, _, _, rfl, .inl ⟨rfl, rfl, rfl⟩, by simp⟩

theorem take (length : Nat) :
    Reads (Decoder.take length) fun bs f => bs.length = length ∧ f = .bytes bs := by
  intro d bs d' valid
  have within : (Footprint.bytes bs).Within d.contentBytes d.values := ⟨valid.1, valid.2.1⟩
  have size : d.rest.length = d.input.length - d.offset := by simp [Decoder.rest]
  have inside := valid.2.2
  by_cases enough : d.offset + length ≤ d.input.length
  · have ran : (Decoder.take length).run d =
        .ok (d.rest.take length, { d with offset := d.offset + length }) := by
      simp [Decoder.take, enough, Decoder.rest]
    rw [ran]
    constructor
    · rintro ⟨⟩
      have whole : (d.rest.take length).length = length := by
        rw [List.length_take]
        omega
      exact ⟨_, ⟨whole, rfl⟩, within, List.take_prefix _ _, by simp [Decoder.spend, Footprint.bytes, whole]⟩
    · rintro ⟨_, ⟨rfl, rfl⟩, -, present, rfl⟩
      have same : d.rest.take bs.length = bs := (List.prefix_iff_eq_take.mp present).symm
      rw [same]
      simp [Decoder.spend, Footprint.bytes]
  · have ran : (Decoder.take length).run d = .error invalidResult := by
      simp [Decoder.take, enough]
    rw [ran]
    simp only [reduceCtorEq, false_iff]
    rintro ⟨_, ⟨rfl, rfl⟩, -, present, -⟩
    have short : bs.length ≤ d.rest.length := present.length_le
    omega

theorem length : Reads Decoder.length fun n f => n < 2 ^ 32 ∧ f = .bytes (be32 n) := by
  refine ((take 4).map ofBigEndian).congr ?_
  intro n f
  constructor
  · rintro ⟨bs, ⟨four, rfl⟩, rfl⟩
    have bound := ofBigEndian_lt bs
    have same := bigEndian_ofBigEndian bs
    rw [four] at bound same
    exact ⟨bound, by rw [be32, same]⟩
  · rintro ⟨bound, rfl⟩
    exact ⟨be32 n, ⟨by simp, rfl⟩, (ofBigEndian_of_lt bound).symm⟩

theorem word : Reads Decoder.word fun w f => f = .bytes (be64 w) := by
  refine ((take 8).map ofBe64).congr ?_
  intro w f
  constructor
  · rintro ⟨bs, ⟨eight, rfl⟩, rfl⟩
    rw [← (ofBe64_eq_iff eight).mp rfl]
  · rintro rfl
    exact ⟨be64 w, ⟨by simp, rfl⟩, (ofBe64_be64 w).symm⟩

theorem addContent (n limit : Nat) :
    Reads (Decoder.addContent n limit) fun _ f => n ≤ limit ∧ f = ⟨[], n, 0⟩ := by
  intro d u d' valid
  have counted := valid.2.1
  simp only [Decoder.addContent]
  by_cases long : n > limit
  · have short : ¬n ≤ limit := by omega
    simp [long, short]
  · have short : n ≤ limit := by omega
    by_cases excess : d.contentBytes + n > maxTotalContentBytes
    · have beyond : ¬d.contentBytes + n ≤ maxTotalContentBytes := by omega
      simp [long, excess, beyond, Footprint.Within]
    · have inside : d.contentBytes + n ≤ maxTotalContentBytes := by omega
      simp [long, excess, short, inside, counted, Footprint.Within, Decoder.spend, eq_comm]

theorem lift (x : Except Error α) : Reads (liftM x) fun a f => x = .ok a ∧ f = .zero := by
  intro d a d' valid
  have within : Footprint.zero.Within d.contentBytes d.values := ⟨valid.1, valid.2.1⟩
  have same : d.spend .zero = d := by simp [Decoder.spend, Footprint.zero]
  cases x with
  | error error => simp
  | ok a' =>
    constructor
    · rintro ⟨⟩
      exact ⟨.zero, ⟨rfl, rfl⟩, within, List.nil_prefix, same.symm⟩
    · rintro ⟨_, ⟨⟨⟩, rfl⟩, -, -, rfl⟩
      rw [same]
      rfl

theorem limitedLength (mark : UInt8) {limit : Nat} (bound : limit < 2 ^ 32) :
    Reads (do
      Decoder.expect mark
      let n ← Decoder.length
      if n > limit then throw invalidResult else Pure.pure n)
      fun n f => n ≤ limit ∧ f = .bytes (mark :: be32 n) := by
  refine ((expect mark).bind fun _ => length.bind fun n =>
    ite (fun _ => fail _) (fun _ => pure n)).congr ?_
  intro n f
  constructor
  · rintro ⟨_, _, _, rfl, ⟨m, _, _, ⟨-, rfl⟩, ⟨-, impossible⟩ | ⟨short, rfl, rfl⟩, rfl⟩, rfl⟩
    · exact impossible.elim
    · exact ⟨by omega, by ext1 <;> simp [Footprint.bytes]⟩
  · rintro ⟨short, rfl⟩
    refine ⟨(), .bytes [mark], .bytes (be32 n), rfl, ?_, by ext1 <;> simp [Footprint.bytes]⟩
    exact ⟨n, .bytes (be32 n), .zero, ⟨by omega, rfl⟩, .inr ⟨by omega, rfl, rfl⟩, by simp⟩

theorem readString (n : Nat) :
    Reads (Decoder.readString n) fun s f => (utf8 s).length = n ∧ f = .bytes (utf8 s) := by
  refine ((take n).bind fun bs => lift _).congr ?_
  intro s f
  simp only [okOr_eq_ok, ofUtf8_eq_some]
  constructor
  · rintro ⟨_, _, _, ⟨length, rfl⟩, ⟨rfl, rfl⟩, rfl⟩
    exact ⟨length, by simp⟩
  · rintro ⟨length, rfl⟩
    exact ⟨utf8 s, .bytes (utf8 s), .zero, ⟨length, rfl⟩, ⟨rfl, rfl⟩, by simp⟩

theorem string {limit : Nat} (bound : limit < 2 ^ 32) :
    Reads (Decoder.string limit) fun s f => (utf8 s).length ≤ limit ∧ f = .text s := by
  refine ((limitedLength 0xdb bound).bind fun n =>
    (addContent n limit).bind fun _ => readString n).congr ?_
  intro s f
  constructor
  · rintro ⟨_, _, _, ⟨-, rfl⟩, ⟨_, _, _, ⟨short, rfl⟩, ⟨rfl, rfl⟩, rfl⟩, rfl⟩
    exact ⟨short, by ext1 <;> simp [Footprint.bytes, Footprint.text]⟩
  · rintro ⟨short, rfl⟩
    refine ⟨(utf8 s).length, _, _, ⟨short, rfl⟩, ⟨(), _, _, ⟨short, rfl⟩, ⟨rfl, rfl⟩, rfl⟩, ?_⟩
    ext1 <;> simp [Footprint.bytes, Footprint.text]

theorem metadataString {limit : Nat} (bound : limit < 2 ^ 32) :
    Reads (Decoder.metadataString limit) fun s f => (utf8 s).length ≤ limit ∧ f = .metadata s := by
  refine ((limitedLength 0xdb bound).bind fun n => readString n).congr ?_
  intro s f
  constructor
  · rintro ⟨_, _, _, ⟨short, rfl⟩, ⟨rfl, rfl⟩, rfl⟩
    exact ⟨short, by ext1 <;> simp [Footprint.bytes, Footprint.metadata]⟩
  · rintro ⟨short, rfl⟩
    refine ⟨(utf8 s).length, _, _, ⟨short, rfl⟩, ⟨rfl, rfl⟩, ?_⟩
    ext1 <;> simp [Footprint.bytes, Footprint.metadata]

theorem containerLength :
    Reads Decoder.containerLength fun n f =>
      n ≤ maxContainerEntries ∧ f = .bytes (0xdd :: be32 n) :=
  limitedLength 0xdd (by decide)

theorem uint64 : Reads Decoder.uint64 fun w f => f = .bytes (0xcf :: be64 w) := by
  refine ((expect 0xcf).bind fun _ => word).congr ?_
  intro w f
  constructor
  · rintro ⟨_, _, _, rfl, rfl, rfl⟩
    ext1 <;> simp [Footprint.bytes]
  · rintro rfl
    exact ⟨(), _, _, rfl, rfl, by ext1 <;> simp [Footprint.bytes]⟩

section Items

variable {item : Decode Value} {levels : Nat}
  (itemReads : Reads item fun v f => v.Fits levels ∧ f = v.footprint)

include itemReads

theorem elements (n : Nat) :
    Reads (Decoder.elements item n) fun vs f =>
      vs.length = n ∧ elementsFit levels vs ∧ f = elementsFootprint vs := by
  induction n with
  | zero =>
    refine (pure ([] : List Value)).congr ?_
    intro vs f
    constructor
    · rintro ⟨rfl, rfl⟩
      exact ⟨rfl, by simp [elementsFit], by simp⟩
    · rintro ⟨none, -, rfl⟩
      obtain rfl := List.length_eq_zero_iff.mp none
      exact ⟨rfl, by simp⟩
  | succ n ih =>
    refine (itemReads.bind fun v => ih.map (v :: ·)).congr ?_
    intro vs f
    constructor
    · rintro ⟨v, _, _, ⟨fits, rfl⟩, ⟨vs, ⟨rfl, rest, rfl⟩, rfl⟩, rfl⟩
      exact ⟨rfl, by simp [elementsFit, fits, rest], by simp⟩
    · rintro ⟨count, fits, rfl⟩
      cases vs with
      | nil => cases count
      | cons v vs =>
        simp only [elementsFit] at fits
        exact ⟨v, v.footprint, elementsFootprint vs, ⟨fits.1, rfl⟩,
          ⟨vs, ⟨by simpa using count, fits.2, rfl⟩, rfl⟩, by simp⟩

theorem entries (n : Nat) (keys : List String) :
    Reads (Decoder.entries item n keys) fun es f =>
      es.length = n ∧ (∀ key ∈ es.map Prod.fst, key ∉ keys) ∧ (es.map Prod.fst).Nodup ∧
        entriesFit levels es ∧ f = entriesFootprint es := by
  induction n generalizing keys with
  | zero =>
    refine (pure ([] : List (String × Value))).congr ?_
    intro es f
    constructor
    · rintro ⟨rfl, rfl⟩
      exact ⟨rfl, by simp, by simp, by simp [entriesFit], by simp⟩
    · rintro ⟨none, -, -, -, rfl⟩
      obtain rfl := List.length_eq_zero_iff.mp none
      exact ⟨rfl, by simp⟩
  | succ n ih =>
    refine ((expect 0x92).bind fun _ => (string (by decide)).bind fun key =>
      ite (fun _ => fail _) fun _ => itemReads.bind fun v => (ih (key :: keys)).map ((key, v) :: ·)).congr ?_
    intro es f
    constructor
    · rintro ⟨_, _, _, rfl, ⟨key, _, _, ⟨short, rfl⟩, ⟨-, impossible⟩ |
        ⟨fresh, v, _, _, ⟨fits, rfl⟩, ⟨es, ⟨rfl, later, distinct, rest, rfl⟩, rfl⟩, rfl⟩, rfl⟩, rfl⟩
      · exact impossible.elim
      · refine ⟨rfl, ?_, ?_, by simp [entriesFit, short, fits, rest], by simp [Footprint.append_assoc]⟩
        · intro k member
          rcases List.mem_cons.mp member with rfl | member
          · exact fresh
          · exact fun old => later k member (List.mem_cons_of_mem _ old)
        · refine List.nodup_cons.mpr ⟨fun member => ?_, distinct⟩
          exact later key member (List.mem_cons_self ..)
    · rintro ⟨count, fresh, distinct, fits, rfl⟩
      cases es with
      | nil => cases count
      | cons entry es =>
        obtain ⟨key, v⟩ := entry
        simp only [entriesFit] at fits
        simp only [List.map_cons, List.nodup_cons, List.mem_cons, forall_eq_or_imp] at fresh distinct
        refine ⟨(), .bytes [0x92], _, rfl, ⟨key, .text key, _, ⟨fits.1, rfl⟩,
          .inr ⟨fresh.1, v, v.footprint, entriesFootprint es, ⟨fits.2.1, rfl⟩, ?_, rfl⟩, rfl⟩, ?_⟩
        · refine ⟨es, ⟨by simpa using count, ?_, distinct.2, fits.2.2, rfl⟩, rfl⟩
          intro k member
          simp only [List.mem_cons, not_or]
          refine ⟨?_, fresh.2 k member⟩
          rintro rfl
          exact distinct.1 member
        · simp [Footprint.append_assoc]

end Items

def Arm (t : UInt8) (levels : Nat) (v : Value) (f : Footprint) : Prop :=
  tag v = t ∧ v.Fits (levels + 1) ∧ f = v.payload

section Arms

variable {levels : Nat}

theorem nullArm : Reads (do Decoder.expect 0xc0; return Value.null) (Arm tagNull levels) := by
  refine ((expect 0xc0).map fun _ => Value.null).congr ?_
  intro v f
  constructor
  · rintro ⟨_, rfl, rfl⟩
    exact ⟨rfl, by simp [Value.Fits], by simp [Value.payload]⟩
  · rintro ⟨same, -, rfl⟩
    cases v <;> cases same
    exact ⟨(), by simp [Value.payload], rfl⟩

theorem boolArm :
    Reads (do
      let b ← Decoder.byte
      if b = 0xc2 then return Value.bool false
      else if b = 0xc3 then return Value.bool true
      else throw invalidResult) (Arm tagBool levels) := by
  refine (byte.bind fun b => ite (fun _ => pure _) fun _ => ite (fun _ => pure _) fun _ => fail _).congr ?_
  intro v f
  constructor
  · rintro ⟨_, _, _, rfl, ⟨rfl, rfl, rfl⟩ | ⟨-, ⟨rfl, rfl, rfl⟩ | ⟨-, impossible⟩⟩, rfl⟩
    · exact ⟨rfl, by simp [Value.Fits], by simp [Value.payload]⟩
    · exact ⟨rfl, by simp [Value.Fits], by simp [Value.payload]⟩
    · exact impossible.elim
  · rintro ⟨same, -, rfl⟩
    cases v <;> cases same
    rename_i b
    cases b
    · exact ⟨0xc2, .bytes [0xc2], .zero, rfl, .inl ⟨rfl, rfl, rfl⟩, by simp [Value.payload]⟩
    · exact ⟨0xc3, .bytes [0xc3], .zero, rfl, .inr ⟨by decide, .inl ⟨rfl, rfl, rfl⟩⟩, by simp [Value.payload]⟩

theorem integerArm :
    Reads (do
      Decoder.expect 0xd3
      let w ← Decoder.word
      return Value.integer w.toInt64) (Arm tagInteger levels) := by
  refine ((expect 0xd3).bind fun _ => word.map fun w => Value.integer w.toInt64).congr ?_
  intro v f
  constructor
  · rintro ⟨_, _, _, rfl, ⟨w, rfl, rfl⟩, rfl⟩
    exact ⟨rfl, by simp [Value.Fits], by simp [Value.payload, Footprint.ext_iff, Footprint.bytes]⟩
  · rintro ⟨same, -, rfl⟩
    cases v <;> cases same
    rename_i i
    exact ⟨(), _, _, rfl, ⟨i.toUInt64, rfl, by simp⟩,
      by simp [Value.payload, Footprint.ext_iff, Footprint.bytes]⟩

theorem floatArm :
    Reads (do
      Decoder.expect 0xcb
      let w ← Decoder.word
      if (Float64.mk w).isFinite then return Value.float ⟨w⟩ else throw invalidResult)
      (Arm tagFloat levels) := by
  refine ((expect 0xcb).bind fun _ => word.bind fun w =>
    ite (fun _ => pure _) fun _ => fail _).congr ?_
  intro v f
  constructor
  · rintro ⟨_, _, _, rfl, ⟨w, _, _, rfl, ⟨finite, rfl, rfl⟩ | ⟨-, impossible⟩, rfl⟩, rfl⟩
    · exact ⟨rfl, by simp [Value.Fits, finite],
        by simp [Value.payload, Footprint.ext_iff, Footprint.bytes, Footprint.zero]⟩
    · exact impossible.elim
  · rintro ⟨same, fits, rfl⟩
    cases v <;> cases same
    rename_i x
    have finite : x.isFinite := by simpa [Value.Fits] using fits
    exact ⟨(), _, _, rfl, ⟨x.bits, _, .zero, rfl, .inl ⟨finite, rfl, rfl⟩, rfl⟩,
      by simp [Value.payload, Footprint.ext_iff, Footprint.bytes]⟩

theorem stringArm :
    Reads (do let s ← Decoder.string maxStringBytes; return Value.string s) (Arm tagString levels) := by
  refine ((string (by decide)).map Value.string).congr ?_
  intro v f
  constructor
  · rintro ⟨s, ⟨short, rfl⟩, rfl⟩
    exact ⟨rfl, by simp [Value.Fits, short], by simp [Value.payload]⟩
  · rintro ⟨same, fits, rfl⟩
    cases v <;> cases same
    rename_i s
    have short : (utf8 s).length ≤ maxStringBytes := by simpa [Value.Fits] using fits
    exact ⟨s, ⟨short, by simp [Value.payload]⟩, rfl⟩

theorem bytesArm :
    Reads (do
      Decoder.expect 0xc6
      let n ← Decoder.length
      Decoder.addContent n maxByteBytes
      let bs ← Decoder.take n
      return Value.bytes bs) (Arm tagBytes levels) := by
  refine ((expect 0xc6).bind fun _ => length.bind fun n => (addContent n maxByteBytes).bind fun _ =>
    (take n).map Value.bytes).congr ?_
  intro v f
  constructor
  · rintro ⟨_, _, _, rfl, ⟨_, _, _, ⟨-, rfl⟩, ⟨_, _, _, ⟨short, rfl⟩, ⟨bs, ⟨rfl, rfl⟩, rfl⟩, rfl⟩, rfl⟩, rfl⟩
    exact ⟨rfl, by simp [Value.Fits, short],
      by simp [Value.payload, Footprint.ext_iff, Footprint.bytes]⟩
  · rintro ⟨same, fits, rfl⟩
    cases v <;> cases same
    rename_i bs
    have short : bs.length ≤ maxByteBytes := by simpa [Value.Fits] using fits
    have bound : bs.length < 2 ^ 32 := by
      unfold maxByteBytes at short
      omega
    exact ⟨(), _, _, rfl, ⟨bs.length, _, _, ⟨bound, rfl⟩, ⟨(), _, _, ⟨short, rfl⟩,
      ⟨bs, ⟨rfl, rfl⟩, rfl⟩, rfl⟩, rfl⟩, by simp [Value.payload, Footprint.ext_iff, Footprint.bytes]⟩

theorem arrayArm {item : Decode Value} (itemReads : Reads item fun v f => v.Fits levels ∧ f = v.footprint) :
    Reads (do
      let n ← Decoder.containerLength
      let vs ← Decoder.elements item n
      return Value.array vs) (Arm tagArray levels) := by
  refine (containerLength.bind fun n => (elements itemReads n).map Value.array).congr ?_
  intro v f
  constructor
  · rintro ⟨_, _, _, ⟨few, rfl⟩, ⟨vs, ⟨rfl, fit, rfl⟩, rfl⟩, rfl⟩
    exact ⟨rfl, by simp [Value.Fits, few, fit], by simp [Value.payload]⟩
  · rintro ⟨same, fits, rfl⟩
    cases v <;> cases same
    rename_i vs
    have inside : vs.length ≤ maxContainerEntries ∧ elementsFit levels vs := by
      simpa [Value.Fits] using fits
    exact ⟨vs.length, _, _, ⟨inside.1, rfl⟩, ⟨vs, ⟨rfl, inside.2, rfl⟩, rfl⟩, by simp [Value.payload]⟩

theorem mapArm {item : Decode Value} (itemReads : Reads item fun v f => v.Fits levels ∧ f = v.footprint) :
    Reads (do
      let n ← Decoder.containerLength
      let es ← Decoder.entries item n []
      return Value.map es) (Arm tagMap levels) := by
  refine (containerLength.bind fun n => (entries itemReads n []).map Value.map).congr ?_
  intro v f
  constructor
  · rintro ⟨_, _, _, ⟨few, rfl⟩, ⟨es, ⟨rfl, -, distinct, fit, rfl⟩, rfl⟩, rfl⟩
    exact ⟨rfl, by simp [Value.Fits, few, distinct, fit], by simp [Value.payload]⟩
  · rintro ⟨same, fits, rfl⟩
    cases v <;> cases same
    rename_i es
    have inside : es.length ≤ maxContainerEntries ∧ (es.map Prod.fst).Nodup ∧ entriesFit levels es := by
      simpa [Value.Fits] using fits
    exact ⟨es.length, _, _, ⟨inside.1, rfl⟩, ⟨es, ⟨rfl, by simp, inside.2.1, inside.2.2, rfl⟩, rfl⟩,
      by simp [Value.payload]⟩

theorem handleArm :
    Reads (do
      Decoder.expect 0x93
      let objectId ← Decoder.uint64
      let generation ← Decoder.uint64
      let typeName ← Decoder.metadataString 128
      let h ← orError invalidResult (HandleValue.new objectId generation typeName)
      return Value.handle h) (Arm tagHandle levels) := by
  refine ((expect 0x93).bind fun _ => uint64.bind fun objectId => uint64.bind fun generation =>
    (metadataString (by decide)).bind fun typeName => (lift _).map Value.handle).congr ?_
  intro v f
  constructor
  · rintro ⟨_, _, _, rfl, ⟨objectId, _, _, rfl, ⟨generation, _, _, rfl, ⟨typeName, _, _, ⟨short, rfl⟩,
      ⟨h, ⟨accepted, rfl⟩, rfl⟩, rfl⟩, rfl⟩, rfl⟩, rfl⟩
    rw [orError_ok] at accepted
    obtain rfl := HandleValue.eq_of_new accepted
    exact ⟨rfl, by simp [Value.Fits, accepted],
      by simp [Value.payload, Footprint.ext_iff, Footprint.bytes]⟩
  · rintro ⟨same, fits, rfl⟩
    cases v <;> cases same
    rename_i h
    have accepted : HandleValue.new h.objectId h.generation h.typeName = .ok h := by
      simpa [Value.Fits] using fits
    have short := HandleValue.typeName_le_of_new accepted
    exact ⟨(), _, _, rfl, ⟨h.objectId, _, _, rfl, ⟨h.generation, _, _, rfl,
      ⟨h.typeName, _, _, ⟨short, rfl⟩, ⟨h, ⟨(orError_ok ..).mpr accepted, rfl⟩, rfl⟩, rfl⟩, rfl⟩, rfl⟩,
      by simp [Value.payload, Footprint.ext_iff, Footprint.bytes]⟩

theorem errorArm :
    Reads (do
      let encoded ← Decoder.metadataString 128
      let code ← okOr invalidResult (BridgeErrorKind.fromWire encoded)
      return Value.error ⟨code⟩) (Arm tagError levels) := by
  refine ((metadataString (by decide)).bind fun encoded =>
    (lift _).map fun code => Value.error ⟨code⟩).congr ?_
  intro v f
  simp only [okOr_eq_ok, fromWire_eq_some_iff]
  constructor
  · rintro ⟨_, _, _, ⟨-, rfl⟩, ⟨code, ⟨rfl, rfl⟩, rfl⟩, rfl⟩
    exact ⟨rfl, by simp [Value.Fits], by simp [Value.payload]⟩
  · rintro ⟨same, -, rfl⟩
    cases v <;> cases same
    rename_i e
    exact ⟨e.code.wireCode, _, _, ⟨wireCode_size_le e.code, rfl⟩, ⟨e.code, ⟨rfl, rfl⟩, rfl⟩,
      by simp [Value.payload]⟩

end Arms

theorem payload {item : Decode Value} {levels : Nat}
    (itemReads : Reads item fun v f => v.Fits levels ∧ f = v.footprint) (t : UInt8) :
    Reads (Decoder.payload item t) (Arm t levels) := by
  unfold Decoder.payload
  by_cases is : t = tagNull
  · rw [if_pos is, is]
    exact nullArm
  rw [if_neg is]
  by_cases is : t = tagBool
  · rw [if_pos is, is]
    exact boolArm
  rw [if_neg is]
  by_cases is : t = tagInteger
  · rw [if_pos is, is]
    exact integerArm
  rw [if_neg is]
  by_cases is : t = tagFloat
  · rw [if_pos is, is]
    exact floatArm
  rw [if_neg is]
  by_cases is : t = tagString
  · rw [if_pos is, is]
    exact stringArm
  rw [if_neg is]
  by_cases is : t = tagBytes
  · rw [if_pos is, is]
    exact bytesArm
  rw [if_neg is]
  by_cases is : t = tagArray
  · rw [if_pos is, is]
    exact arrayArm itemReads
  rw [if_neg is]
  by_cases is : t = tagMap
  · rw [if_pos is, is]
    exact mapArm itemReads
  rw [if_neg is]
  by_cases is : t = tagHandle
  · rw [if_pos is, is]
    exact handleArm
  rw [if_neg is]
  by_cases is : t = tagError
  · rw [if_pos is, is]
    exact errorArm
  rw [if_neg is]
  refine (fail _).congr ?_
  intro v f
  simp only [false_iff]
  rintro ⟨rfl, -, -⟩
  cases v <;> contradiction

theorem countValue : Reads Decoder.countValue fun _ f => f = ⟨[], 0, 1⟩ := by
  intro d u d' valid
  have bytes := valid.1
  simp only [Decoder.countValue]
  by_cases full : d.values ≥ maxTotalValues
  · have beyond : ¬d.values + 1 ≤ maxTotalValues := by omega
    simp [full, beyond, Footprint.Within]
  · have inside : d.values + 1 ≤ maxTotalValues := by omega
    simp [full, inside, bytes, Footprint.Within, Decoder.spend, eq_comm]

theorem value (levels : Nat) :
    Reads (Decoder.value levels) fun v f => v.Fits levels ∧ f = v.footprint := by
  induction levels with
  | zero =>
    refine (fail _).congr ?_
    intro v f
    unfold Value.Fits
    simp
  | succ levels ih =>
    refine (countValue.bind fun _ => (expect 0x92).bind fun _ => byte.bind fun t =>
      payload ih t).congr ?_
    intro v f
    constructor
    · rintro ⟨_, _, _, rfl, ⟨_, _, _, rfl, ⟨t, _, _, rfl, ⟨rfl, fits, rfl⟩, rfl⟩, rfl⟩, rfl⟩
      exact ⟨fits, by simp [Value.footprint, Footprint.ext_iff, Footprint.bytes, Footprint.node]⟩
    · rintro ⟨fits, rfl⟩
      exact ⟨(), _, _, rfl, ⟨(), _, _, rfl, ⟨tag v, _, _, rfl, ⟨rfl, fits, rfl⟩, rfl⟩, rfl⟩,
        by simp [Value.footprint, Footprint.ext_iff, Footprint.bytes, Footprint.node]⟩

end Reads

/-- From any offset and budgets the decoder accepts exactly an encodable value's bytes, whatever
    follows them. -/
theorem decoder_value_eq_ok_iff {input : List UInt8} {v : Value} {d : Decoder} :
    (Decoder.value (maxDepth + 1)).run { input } = .ok (v, d) ↔
      v.Encodable ∧ v.footprint.wire <+: input ∧ d = Decoder.spend { input } v.footprint := by
  have valid : Decoder.Valid { input } := ⟨Nat.zero_le _, Nat.zero_le _, Nat.zero_le _⟩
  rw [Reads.value (maxDepth + 1) { input } v d valid]
  constructor
  · rintro ⟨_, ⟨fits, rfl⟩, within, present, rfl⟩
    exact ⟨⟨fits, within⟩, present, rfl⟩
  · rintro ⟨⟨fits, within⟩, present, rfl⟩
    exact ⟨_, ⟨fits, rfl⟩, within, present, rfl⟩

theorem fromWire_eq_ok_iff (b : List UInt8) (v : Value) :
    Value.fromWire b = .ok v ↔ v.Encodable ∧ b = v.footprint.wire := by
  unfold Value.fromWire
  rw [bind_eq_ok]
  simp only [decoder_value_eq_ok_iff, Prod.exists]
  constructor
  · rintro ⟨v', _, ⟨encodable, present, rfl⟩, finished⟩
    split at finished
    · rename_i whole
      cases finished
      have length : v.footprint.wire.length = b.length := by simpa [Decoder.spend] using whole
      exact ⟨encodable, (present.eq_of_length length).symm⟩
    · cases finished
  · rintro ⟨encodable, rfl⟩
    refine ⟨v, _, ⟨encodable, List.prefix_rfl, rfl⟩, ?_⟩
    simp [Decoder.spend]

end RuntimeHost.Sdk

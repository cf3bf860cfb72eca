import RuntimeHost.Foundation.Result
import RuntimeHost.Sdk.Footprint

namespace RuntimeHost.Sdk

open Foundation

def Encoder.Valid (e : Encoder) : Prop :=
  e.contentBytes ≤ maxTotalContentBytes ∧ e.values ≤ maxTotalValues

def Encoder.spend (e : Encoder) (f : Footprint) : Encoder where
  output := e.output ++ f.wire
  contentBytes := e.contentBytes + f.content
  values := e.values + f.values

theorem Encoder.spend_append (e : Encoder) (f g : Footprint) : e.spend (f ++ g) = (e.spend f).spend g := by
  simp [Encoder.spend, Nat.add_assoc]

theorem Encoder.spend_valid {e : Encoder} {f : Footprint} (within : f.Within e.contentBytes e.values) :
    (e.spend f).Valid := within

/-- An encoder step succeeds exactly when `P` holds and the budgets allow `f`, and then writes `f`. -/
def Emits (p : Encode Unit) (P : Prop) (f : Footprint) : Prop :=
  ∀ e e' : Encoder, e.Valid →
    (p.run e = .ok ((), e') ↔ P ∧ f.Within e.contentBytes e.values ∧ e' = e.spend f)

namespace Emits

variable {p q : Encode Unit} {P Q : Prop} {f g : Footprint}

theorem congr (hp : Emits p P f) (same : P ↔ Q) (print : f = g) : Emits p Q g := by
  intro e e' valid
  rw [hp e e' valid, same, print]

theorem bind (hp : Emits p P f) (hq : Emits q Q g) : Emits (do p; q) (P ∧ Q) (f ++ g) := by
  intro e e' valid
  rw [run_bind_eq_ok, Encoder.spend_append, Footprint.within_append]
  constructor
  · rintro ⟨_, middle, first, second⟩
    obtain ⟨left, within, rfl⟩ := (hp e middle valid).mp first
    obtain ⟨right, rest, rfl⟩ := (hq _ e' (Encoder.spend_valid within)).mp second
    exact ⟨⟨left, right⟩, ⟨within, rest⟩, rfl⟩
  · rintro ⟨⟨left, right⟩, ⟨within, rest⟩, rfl⟩
    refine ⟨(), e.spend f, (hp e _ valid).mpr ⟨left, within, rfl⟩, ?_⟩
    exact (hq _ _ (Encoder.spend_valid within)).mpr ⟨right, rest, rfl⟩

theorem fail (error : Error) (f : Footprint) : Emits (throw error) False f := by
  intro e e' valid
  simp

theorem pure : Emits (Pure.pure ()) True .zero := by
  intro e e' valid
  have within : Footprint.zero.Within e.contentBytes e.values := valid
  have same : e.spend .zero = e := by simp [Encoder.spend, Footprint.zero]
  simp [within, same, eq_comm]

theorem guard {c : Prop} [Decidable c] (error : Error) (hp : Emits p P f) :
    Emits (if c then throw error else p) (¬c ∧ P) f := by
  split
  · exact (fail error f).congr (by simp_all) rfl
  · exact hp.congr (by simp_all) rfl

theorem extend (bytes : List UInt8) : Emits (Encoder.extend bytes) True (.bytes bytes) := by
  intro e e' valid
  have within : (Footprint.bytes bytes).Within e.contentBytes e.values := valid
  simp only [within, true_and]
  simp [Encoder.extend, Encoder.spend, Footprint.bytes, eq_comm]

theorem addContent (length limit : Nat) :
    Emits (Encoder.addContent length limit) (length ≤ limit) ⟨[], length, 0⟩ := by
  unfold Encoder.addContent
  refine (guard (P := True) invalidArgument ?_).congr (by simp) rfl
  intro e e' valid
  have counted := valid.2
  simp only [Footprint.Within, Encoder.spend]
  by_cases excess : e.contentBytes + length > maxTotalContentBytes
  · have beyond : ¬e.contentBytes + length ≤ maxTotalContentBytes := by omega
    simp [excess, beyond]
  · have inside : e.contentBytes + length ≤ maxTotalContentBytes := by omega
    simp [excess, inside, counted, eq_comm]

theorem writeLength {length : Nat} (bound : length < 2 ^ 32) :
    Emits (Encoder.writeLength length) True (.bytes (be32 length)) := by
  rw [Encoder.writeLength, if_pos bound]
  exact extend _

theorem writeString {value : String} (bound : (utf8 value).length < 2 ^ 32) :
    Emits (Encoder.writeString value) True (.metadata value) := by
  refine ((extend _).bind ((writeLength bound).bind (extend _))).congr (by simp) ?_
  ext1 <;> simp [Footprint.metadata, Footprint.bytes]

theorem string {value : String} {limit : Nat} (bound : limit < 2 ^ 32) :
    Emits (Encoder.string value limit) ((utf8 value).length ≤ limit) (.text value) := by
  by_cases short : (utf8 value).length ≤ limit
  · refine ((addContent _ _).bind (writeString (by omega))).congr (by simp) ?_
    ext1 <;> simp [Footprint.metadata, Footprint.text, Footprint.bytes]
  · have long : (utf8 value).length > limit := by omega
    rw [Encoder.string, Encoder.addContent, if_pos long]
    intro e e' valid
    simp [short]

theorem metadataString {value : String} {limit : Nat} (bound : limit < 2 ^ 32) :
    Emits (Encoder.metadataString value limit) ((utf8 value).length ≤ limit) (.metadata value) := by
  unfold Encoder.metadataString
  split
  · rename_i long
    exact (fail _ _).congr (by simp; omega) rfl
  · rename_i short
    exact (writeString (by omega)).congr (by simp; omega) rfl

theorem containerLength (length : Nat) :
    Emits (Encoder.containerLength length) (length ≤ maxContainerEntries)
      (.bytes (0xdd :: be32 length)) := by
  unfold Encoder.containerLength
  split
  · rename_i long
    exact (fail _ _).congr (by simp; omega) rfl
  · rename_i short
    have bound : length < 2 ^ 32 := by
      unfold maxContainerEntries at short
      omega
    refine ((extend _).bind (writeLength bound)).congr (by simp; omega) ?_
    ext1 <;> simp [Footprint.bytes]

theorem uint64 (value : UInt64) : Emits (Encoder.uint64 value) True (.bytes (0xcf :: be64 value)) := by
  refine ((extend _).bind (extend _)).congr (by simp) ?_
  ext1 <;> simp [Footprint.bytes]

theorem enter (t : UInt8) (depth : Nat) :
    Emits (Encoder.enter t depth) (depth ≤ maxDepth) (.node t) := by
  intro e e' valid
  have bytes := valid.1
  simp only [Encoder.enter, Encoder.extend, Footprint.Within, Encoder.spend, Footprint.node]
  by_cases closed : depth > maxDepth ∨ e.values ≥ maxTotalValues
  · have beyond : ¬(depth ≤ maxDepth ∧ e.values + 1 ≤ maxTotalValues) := by omega
    simp [closed]
    tauto
  · have inside : depth ≤ maxDepth ∧ e.values + 1 ≤ maxTotalValues := by omega
    simp [closed, inside, bytes, eq_comm]

theorem lift {x : Except Error HandleValue} (done : (∃ h, x = .ok h) ↔ P) (hp : Emits p Q f) :
    Emits (do let _ ← (x : Encode HandleValue); p) (P ∧ Q) f := by
  intro e e' valid
  rw [← done, run_bind_eq_ok]
  cases x with
  | error error => simp
  | ok h => simpa using hp e e' valid

end Emits

mutual

theorem emits_value (v : Value) (depth : Nat) :
    Emits (Encoder.value v depth) (v.Fits (maxDepth + 1 - depth)) v.footprint := by
  have level : depth ≤ maxDepth ↔ 0 < maxDepth + 1 - depth := by omega
  unfold Encoder.value Value.Fits Value.footprint
  refine ((Emits.enter (tag v) depth).bind ?_).congr (and_congr level Iff.rfl) rfl
  cases v with
  | null => exact Emits.extend _
  | bool b => exact Emits.extend _
  | integer i =>
    refine ((Emits.extend _).bind (Emits.extend _)).congr (by simp) ?_
    ext1 <;> simp [Value.payload, Footprint.bytes]
  | float x =>
    simp only
    split
    · rename_i finite
      refine ((Emits.extend _).bind (Emits.extend _)).congr (by simp [finite]) ?_
      ext1 <;> simp [Value.payload, Footprint.bytes]
    · rename_i infinite
      exact (Emits.fail _ _).congr (by simp [infinite]) rfl
  | string s => exact (Emits.string (by decide)).congr Iff.rfl (by simp [Value.payload])
  | bytes bs =>
    by_cases short : bs.length ≤ maxByteBytes
    · have bound : bs.length < 2 ^ 32 := by
        unfold maxByteBytes at short
        omega
      refine ((Emits.addContent _ _).bind ((Emits.extend _).bind
        ((Emits.writeLength bound).bind (Emits.extend _)))).congr (by simp) ?_
      ext1 <;> simp [Value.payload, Footprint.bytes]
    · have long : bs.length > maxByteBytes := by omega
      intro e e' valid
      simp [Encoder.addContent, short, long]
  | array vs =>
    have deeper : maxDepth + 1 - (depth + 1) = maxDepth + 1 - depth - 1 := by omega
    have elements := emits_elements vs (depth + 1)
    rw [deeper] at elements
    exact ((Emits.containerLength _).bind elements).congr Iff.rfl (by simp [Value.payload])
  | map es =>
    have deeper : maxDepth + 1 - (depth + 1) = maxDepth + 1 - depth - 1 := by omega
    have entries := emits_entries es (depth + 1) []
    rw [deeper] at entries
    exact ((Emits.containerLength _).bind entries).congr (by simp) (by simp [Value.payload])
  | handle h =>
    have done : (∃ made, HandleValue.new h.objectId h.generation h.typeName = .ok made) ↔
        HandleValue.new h.objectId h.generation h.typeName = .ok h := by
      constructor
      · rintro ⟨made, accepted⟩
        rw [accepted, HandleValue.eq_of_new accepted]
      · exact fun accepted => ⟨h, accepted⟩
    refine (Emits.lift done ((Emits.extend _).bind ((Emits.uint64 _).bind
      ((Emits.uint64 _).bind (Emits.metadataString (by decide)))))).congr ?_ ?_
    · simp only [true_and, and_iff_left_iff_imp]
      exact HandleValue.typeName_le_of_new
    · ext1 <;> simp [Value.payload, Footprint.bytes]
  | error e =>
    exact (Emits.metadataString (by decide)).congr (by simp [wireCode_size_le]) (by simp [Value.payload])

theorem emits_elements (vs : List Value) (depth : Nat) :
    Emits (Encoder.elements vs depth) (elementsFit (maxDepth + 1 - depth) vs) (elementsFootprint vs) := by
  cases vs with
  | nil =>
    unfold Encoder.elements
    exact Emits.pure.congr (by simp [elementsFit]) (by simp)
  | cons v vs =>
    unfold Encoder.elements
    exact ((emits_value v depth).bind (emits_elements vs depth)).congr
      (by simp [elementsFit]) (by simp)

theorem emits_entries (es : List (String × Value)) (depth : Nat) (keys : List String) :
    Emits (Encoder.entries es depth keys)
      ((∀ key ∈ es.map Prod.fst, key ∉ keys) ∧ (es.map Prod.fst).Nodup ∧
        entriesFit (maxDepth + 1 - depth) es)
      (entriesFootprint es) := by
  cases es with
  | nil =>
    unfold Encoder.entries
    exact Emits.pure.congr (by simp [entriesFit]) (by simp)
  | cons entry es =>
    obtain ⟨key, v⟩ := entry
    unfold Encoder.entries
    refine (Emits.guard _ ((Emits.extend _).bind ((Emits.string (by decide)).bind
      ((emits_value v depth).bind (emits_entries es depth (key :: keys)))))).congr ?_ ?_
    · simp only [List.map_cons, List.mem_cons, forall_eq_or_imp, List.nodup_cons, entriesFit, not_or]
      constructor
      · rintro ⟨fresh, -, short, fits, later, distinct, rest⟩
        exact ⟨⟨fresh, fun k member => (later k member).2⟩,
          ⟨fun member => (later key member).1 rfl, distinct⟩, short, fits, rest⟩
      · rintro ⟨⟨fresh, later⟩, ⟨apart, distinct⟩, short, fits, rest⟩
        refine ⟨fresh, trivial, short, fits, fun k member => ⟨?_, later k member⟩, distinct, rest⟩
        rintro rfl
        exact apart member
    · simp [Footprint.append_assoc]

end

theorem toWire_eq_ok_iff (v : Value) (b : List UInt8) :
    v.toWire = .ok b ↔ v.Encodable ∧ b = v.footprint.wire := by
  have valid : Encoder.Valid {} := ⟨Nat.zero_le _, Nat.zero_le _⟩
  have exact := fun e' => emits_value v 0 {} e' valid
  unfold Value.toWire
  rw [bind_eq_ok]
  constructor
  · rintro ⟨⟨_, e⟩, run, out⟩
    obtain ⟨fits, within, rfl⟩ := (exact e).mp run
    cases out
    exact ⟨⟨fits, within⟩, by simp [Encoder.spend]⟩
  · rintro ⟨⟨fits, within⟩, rfl⟩
    exact ⟨((), Encoder.spend {} v.footprint), (exact _).mpr ⟨fits, within, rfl⟩,
      by simp [Encoder.spend]⟩

end RuntimeHost.Sdk

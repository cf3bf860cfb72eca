import RuntimeHost.Foundation.Names
import RuntimeHost.Foundation.Text

namespace RuntimeHost.Foundation

open scoped Computability

section Separated

variable {α : Type}

def oneOf (p : α → Prop) : Language α := {word | ∃ a, p a ∧ word = [a]}

theorem nil_notMem_oneOf_mul {p : α → Prop} {l : Language α} : [] ∉ oneOf p * l := by
  intro member
  obtain ⟨first, ⟨a, -, rfl⟩, rest, -, same⟩ := Language.mem_mul.mp member
  cases same

theorem cons_mem_oneOf_mul {p : α → Prop} {l : Language α} {a : α} {rest : List α} :
    a :: rest ∈ oneOf p * l ↔ p a ∧ rest ∈ l := by
  constructor
  · intro member
    obtain ⟨first, ⟨b, inside, rfl⟩, later, tail, same⟩ := Language.mem_mul.mp member
    cases same
    exact ⟨inside, tail⟩
  · rintro ⟨inside, tail⟩
    exact Language.mem_mul.mpr ⟨[a], ⟨a, inside, rfl⟩, rest, tail, rfl⟩

def runs (sep inner : α → Prop) : Language α := (oneOf inner)∗ * (oneOf sep * (oneOf inner * (oneOf inner)∗))∗

theorem runs_eq (sep inner : α → Prop) :
    runs sep inner = 1 + oneOf sep * (oneOf inner * runs sep inner) + oneOf inner * runs sep inner := by
  have star := (Language.one_add_self_mul_kstar_eq_kstar (oneOf inner)).symm
  have more := (Language.one_add_self_mul_kstar_eq_kstar (oneOf sep * (oneOf inner * (oneOf inner)∗))).symm
  calc runs sep inner
    _ = (1 + oneOf inner * (oneOf inner)∗) * (oneOf sep * (oneOf inner * (oneOf inner)∗))∗ := by
      rw [← star]
      rfl
    _ = (oneOf sep * (oneOf inner * (oneOf inner)∗))∗ + oneOf inner * runs sep inner := by
      rw [add_mul, one_mul, mul_assoc]
      rfl
    _ = _ := by
      conv_lhs => rw [more]
      rw [mul_assoc, mul_assoc]
      rfl

theorem nil_mem_runs {sep inner : α → Prop} : [] ∈ runs sep inner := by
  rw [runs_eq]
  exact .inl (.inl rfl)

theorem cons_mem_runs {sep inner : α → Prop} {a : α} {rest : List α} :
    a :: rest ∈ runs sep inner ↔ (sep a ∧ rest ∈ oneOf inner * runs sep inner) ∨ (inner a ∧ rest ∈ runs sep inner) := by
  rw [runs_eq, Language.mem_add, Language.mem_add, cons_mem_oneOf_mul, cons_mem_oneOf_mul, ← runs_eq]
  simp [Language.mem_one]

theorem mem_of_mem_runs {sep inner : α → Prop} (word : List α) :
    (word ∈ runs sep inner → ∀ a ∈ word, sep a ∨ inner a) ∧
      (word ∈ oneOf inner * runs sep inner → ∀ a ∈ word, sep a ∨ inner a) := by
  induction word with
  | nil => simp
  | cons first rest ih =>
    have later : sep first ∨ inner first → (∀ a ∈ rest, sep a ∨ inner a) →
        ∀ a ∈ first :: rest, sep a ∨ inner a := by
      intro inside others a present
      rcases List.mem_cons.mp present with rfl | present
      · exact inside
      · exact others a present
    constructor
    · intro member
      rcases cons_mem_runs.mp member with ⟨here, tail⟩ | ⟨here, tail⟩
      · exact later (.inl here) (ih.2 tail)
      · exact later (.inr here) (ih.1 tail)
    · intro member
      obtain ⟨here, tail⟩ := cons_mem_oneOf_mul.mp member
      exact later (.inr here) (ih.1 tail)

end Separated

section Scan

variable {isSeparator : UInt8 → Bool}

def IsInner (byte : UInt8) : Prop := isAsciiLowercase byte = true ∨ isAsciiDigit byte = true

theorem scanName_iff (apart : ∀ byte, isSeparator byte = true → ¬IsInner byte) (separator : Bool) (bytes : List UInt8) :
    scanName isSeparator separator bytes = true ↔
      bytes ∈ if separator then oneOf IsInner * runs (isSeparator · = true) IsInner
        else runs (isSeparator · = true) IsInner := by
  induction bytes generalizing separator with
  | nil =>
    cases separator with
    | true => simpa [scanName] using nil_notMem_oneOf_mul
    | false => simpa [scanName] using nil_mem_runs
  | cons byte rest ih =>
    have inner : (isAsciiLowercase byte || isAsciiDigit byte) = true ↔ IsInner byte := by simp [IsInner]
    rw [scanName]
    by_cases here : isSeparator byte = true
    · have outer := apart byte here
      rw [if_pos here]
      cases separator with
      | true => simp [cons_mem_oneOf_mul, outer]
      | false => simp [ih, cons_mem_runs, here, outer]
    · rw [if_neg here]
      by_cases letter : IsInner byte
      · rw [if_pos (inner.mpr letter), ih]
        cases separator with
        | true => simp [cons_mem_oneOf_mul, letter]
        | false => simp [cons_mem_runs, letter, here]
      · rw [if_neg (inner.not.mpr letter)]
        cases separator with
        | true => simp [cons_mem_oneOf_mul, letter]
        | false => simp [cons_mem_runs, letter, here]

theorem isSeparatedName_iff (apart : ∀ byte, isSeparator byte = true → ¬IsInner byte) (bytes : List UInt8) :
    isSeparatedName isSeparator bytes = true ↔
      bytes ∈ oneOf (isAsciiLowercase · = true) * runs (isSeparator · = true) IsInner := by
  cases bytes with
  | nil => simpa [isSeparatedName] using nil_notMem_oneOf_mul
  | cons first rest => simp [isSeparatedName, scanName_iff apart, cons_mem_oneOf_mul]

end Scan

section Ascii

theorem utf8EncodeChar_ascii {c : Char} (ascii : c.toNat < 128) : String.utf8EncodeChar c = [UInt8.ofNat c.toNat] :=
  if_pos (Nat.le_of_lt_succ ascii)

theorem utf8EncodeChar_wide {c : Char} (wide : ¬c.toNat < 128) :
    ∃ byte more, String.utf8EncodeChar c = byte :: more ∧ 128 ≤ byte.toNat := by
  have above : ¬c.val.toNat ≤ 0x7f := by
    intro small
    exact wide (Nat.lt_succ_of_le small)
  unfold String.utf8EncodeChar
  simp only [if_neg above]
  split
  · exact ⟨_, _, rfl, by simp; omega⟩
  · split
    · exact ⟨_, _, rfl, by simp; omega⟩
    · exact ⟨_, _, rfl, by simp; omega⟩

structure Ascii (chars : Char → Prop) (bytes : UInt8 → Prop) : Prop where
  low : ∀ byte, bytes byte → byte.toNat < 128
  same : ∀ c : Char, chars c ↔ c.toNat < 128 ∧ bytes (UInt8.ofNat c.toNat)

variable {chars chars' : Char → Prop} {bytes bytes' : UInt8 → Prop} {c : Char} {rest : List Char}

theorem Ascii.cons_mem (ascii : Ascii chars bytes) {l : Language Char} {l' : Language UInt8}
    (tail : utf8 (String.ofList rest) ∈ l' ↔ rest ∈ l) :
    utf8 (String.ofList (c :: rest)) ∈ oneOf bytes * l' ↔ c :: rest ∈ oneOf chars * l := by
  rw [utf8_cons, cons_mem_oneOf_mul, ascii.same]
  by_cases narrow : c.toNat < 128
  · rw [utf8EncodeChar_ascii narrow, List.singleton_append, cons_mem_oneOf_mul, tail]
    simp [narrow]
  · obtain ⟨byte, more, encoded, high⟩ := utf8EncodeChar_wide narrow
    rw [encoded, List.cons_append, cons_mem_oneOf_mul]
    have foreign : ¬bytes byte := fun inside => absurd (ascii.low byte inside) (not_lt.mpr high)
    simp [narrow, foreign]

theorem Ascii.runs_mem (sep : Ascii chars bytes) (inner : Ascii chars' bytes') (text : List Char) :
    (utf8 (String.ofList text) ∈ runs bytes bytes' ↔ text ∈ runs chars chars') ∧
      (utf8 (String.ofList text) ∈ oneOf bytes' * runs bytes bytes' ↔ text ∈ oneOf chars' * runs chars chars') := by
  induction text with
  | nil =>
    have empty : utf8 (String.ofList []) = [] := rfl
    rw [empty]
    exact ⟨iff_of_true nil_mem_runs nil_mem_runs, iff_of_false nil_notMem_oneOf_mul nil_notMem_oneOf_mul⟩
  | cons c rest ih =>
    have more := inner.cons_mem (c := c) ih.1
    have apart := sep.cons_mem (c := c) ih.2
    refine ⟨?_, more⟩
    have full : utf8 (String.ofList (c :: rest)) ≠ [] := by
      rw [utf8_cons]
      intro empty
      exact String.utf8EncodeChar_ne_nil (List.append_eq_nil_iff.mp empty).1
    rw [runs_eq bytes, runs_eq chars, Language.mem_add, Language.mem_add, Language.mem_add, Language.mem_add, apart, more]
    simp only [Language.mem_one, full, reduceCtorEq, false_or]

theorem Ascii.name_mem {first : Char → Prop} {first' : UInt8 → Prop} (head : Ascii first first')
    (sep : Ascii chars bytes) (inner : Ascii chars' bytes') (text : String) :
    utf8 text ∈ oneOf first' * runs bytes bytes' ↔ text.toList ∈ oneOf first * runs chars chars' := by
  obtain ⟨chars, rfl⟩ : ∃ chars, text = String.ofList chars := ⟨text.toList, String.ofList_toList.symm⟩
  rw [String.toList_ofList]
  cases chars with
  | nil => exact iff_of_false nil_notMem_oneOf_mul nil_notMem_oneOf_mul
  | cons c rest => exact head.cons_mem (sep.runs_mem inner rest).1

end Ascii

end RuntimeHost.Foundation

import RuntimeHost.Foundation.SeparatedNames
import RuntimeHost.Protocol.Message

namespace RuntimeHost.Protocol

open Foundation Sdk
open scoped Computability

section Grammars

def IsLetter (c : Char) : Prop := 'a' ≤ c ∧ c ≤ 'z'

def IsAlphanumeric (c : Char) : Prop := ('a' ≤ c ∧ c ≤ 'z') ∨ ('0' ≤ c ∧ c ≤ '9')

def typeNameGrammar : Language Char :=
  oneOf IsLetter * ((oneOf IsAlphanumeric)∗ *
    (oneOf (fun c => c = '.' ∨ c = '-') * (oneOf IsAlphanumeric * (oneOf IsAlphanumeric)∗))∗)

def codeGrammar : Language Char :=
  oneOf IsLetter * ((oneOf IsAlphanumeric)∗ *
    (oneOf (fun c => c = '-') * (oneOf IsAlphanumeric * (oneOf IsAlphanumeric)∗))∗)

end Grammars

section Classes

theorem toNat_ofNat_ascii {n : Nat} (ascii : n < 128) : (UInt8.ofNat n).toNat = n :=
  UInt8.toNat_ofNat_of_lt' (ascii.trans (by decide))

theorem char_le_iff (a b : Char) : a ≤ b ↔ a.toNat ≤ b.toNat := by
  rw [Char.le_def, UInt32.le_iff_toNat_le]
  rfl

theorem ascii_range {first last : Char} (ascii : last.toNat < 128) :
    Ascii (fun c => first ≤ c ∧ c ≤ last) fun byte => first.toNat ≤ byte.toNat ∧ byte.toNat ≤ last.toNat where
  low byte inside := inside.2.trans_lt ascii
  same c := by
    simp only [char_le_iff]
    constructor
    · intro inside
      have narrow := inside.2.trans_lt ascii
      rw [toNat_ofNat_ascii narrow]
      exact ⟨narrow, inside⟩
    · rintro ⟨narrow, inside⟩
      rwa [toNat_ofNat_ascii narrow] at inside

theorem ascii_single {d : Char} (ascii : d.toNat < 128) : Ascii (fun c => c = d) fun byte => byte = UInt8.ofNat d.toNat where
  low byte same := by rwa [same, toNat_ofNat_ascii ascii]
  same c := by
    constructor
    · rintro rfl
      exact ⟨ascii, rfl⟩
    · rintro ⟨narrow, same⟩
      apply Char.toNat_inj.mp
      rw [← toNat_ofNat_ascii narrow, same, toNat_ofNat_ascii ascii]

theorem ascii_or {p p' : Char → Prop} {q q' : UInt8 → Prop} (left : Ascii p q) (right : Ascii p' q') :
    Ascii (fun c => p c ∨ p' c) fun byte => q byte ∨ q' byte where
  low byte inside := by
    rcases inside with inside | inside
    · exact left.low byte inside
    · exact right.low byte inside
  same c := by
    rw [and_or_left]
    exact or_congr (left.same c) (right.same c)

theorem ascii_letter : Ascii IsLetter (isAsciiLowercase · = true) := by
  have bytes : (isAsciiLowercase · = true) = fun byte : UInt8 => 'a'.toNat ≤ byte.toNat ∧ byte.toNat ≤ 'z'.toNat := by
    funext byte
    simp [isAsciiLowercase, UInt8.le_iff_toNat_le]
  rw [bytes]
  exact ascii_range (by decide)

theorem ascii_digit : Ascii (fun c => '0' ≤ c ∧ c ≤ '9') (isAsciiDigit · = true) := by
  have bytes : (isAsciiDigit · = true) = fun byte : UInt8 => '0'.toNat ≤ byte.toNat ∧ byte.toNat ≤ '9'.toNat := by
    funext byte
    simp [isAsciiDigit, UInt8.le_iff_toNat_le]
  rw [bytes]
  exact ascii_range (by decide)

theorem ascii_alphanumeric : Ascii IsAlphanumeric IsInner := ascii_or ascii_letter ascii_digit

theorem ascii_dash : Ascii (fun c => c = '-') fun byte => (byte == 0x2d) = true := by
  simp only [beq_iff_eq]
  exact ascii_single (d := '-') (by decide)

theorem ascii_dot_or_dash : Ascii (fun c => c = '.' ∨ c = '-') fun byte => (byte == 0x2e || byte == 0x2d) = true := by
  simp only [Bool.or_eq_true, beq_iff_eq]
  exact ascii_or (ascii_single (d := '.') (by decide)) (ascii_single (d := '-') (by decide))

theorem dash_outside (byte : UInt8) (dash : (byte == 0x2d) = true) : ¬IsInner byte := by
  obtain rfl := beq_iff_eq.mp dash
  unfold IsInner
  decide

theorem dot_or_dash_outside (byte : UInt8) (separator : (byte == 0x2e || byte == 0x2d) = true) : ¬IsInner byte := by
  rw [Bool.or_eq_true] at separator
  rcases separator with dot | dash
  · obtain rfl := beq_iff_eq.mp dot
    unfold IsInner
    decide
  · exact dash_outside byte dash

end Classes

section Scanners

variable {s : String}

theorem typeNameGrammar_iff :
    isSeparatedName (fun byte => byte == 0x2e || byte == 0x2d) (utf8 s) = true ↔ s.toList ∈ typeNameGrammar := by
  rw [isSeparatedName_iff dot_or_dash_outside]
  exact Ascii.name_mem ascii_letter ascii_dot_or_dash ascii_alphanumeric s

theorem codeGrammar_iff : isSeparatedName (· == 0x2d) (utf8 s) = true ↔ s.toList ∈ codeGrammar := by
  rw [isSeparatedName_iff dash_outside]
  exact Ascii.name_mem ascii_letter ascii_dash ascii_alphanumeric s

theorem ascii_of_mem {p q r : Char → Prop} {p' q' r' : UInt8 → Prop} (head : Ascii p p') (sep : Ascii q q')
    (inner : Ascii r r') {word : List Char} (member : word ∈ oneOf p * runs q r) : ∀ c ∈ word, c.toNat < 128 := by
  intro c present
  cases word with
  | nil => cases present
  | cons first rest =>
    obtain ⟨letter, tail⟩ := cons_mem_oneOf_mul.mp member
    rcases List.mem_cons.mp present with rfl | later
    · exact ((head.same c).mp letter).1
    · rcases (mem_of_mem_runs rest).1 tail c later with between | inside
      · exact ((sep.same c).mp between).1
      · exact ((inner.same c).mp inside).1

theorem isValidTypeName_iff : isValidTypeName s = true ↔ (utf8 s).length ≤ 128 ∧ s.toList ∈ typeNameGrammar := by
  unfold isValidTypeName
  rw [← typeNameGrammar_iff]
  split
  · rename_i refused
    simp only [Bool.or_eq_true, String.isEmpty_iff, decide_eq_true_eq] at refused
    rcases refused with rfl | long
    · simp [isSeparatedName]
    · simp only [Bool.false_eq_true, false_iff, not_and]
      intro short
      exact absurd short (not_le.mpr long)
  · rename_i short
    simp only [Bool.or_eq_true, decide_eq_true_eq, not_or, not_lt] at short
    simp [short.2]

example : ["", "-a", "a-", "a--b", "a.-b", "a.", "1a", "a_b"].all (fun s => !isValidTypeName s) ∧
    ["a", "a-b.c1", "z9"].all isValidTypeName := by decide

theorem requireCode_iff : requireCode s = .ok () ↔ (utf8 s).length ≤ 128 ∧ s.toList ∈ codeGrammar := by
  unfold requireCode
  rw [← codeGrammar_iff]
  split
  · rename_i name
    rw [ite_error_eq_ok]
    simp [name]
  · rename_i foreign
    simp [foreign]

end Scanners

structure NameGrammars (s : String) : Prop where
  typeName : isValidTypeName s = true ↔ (utf8 s).length ≤ 128 ∧ s.toList ∈ typeNameGrammar
  code : requireCode s = .ok () ↔ (utf8 s).length ≤ 128 ∧ s.toList ∈ codeGrammar
  ascii : ∀ c ∈ s.toList, 128 ≤ c.toNat → isValidTypeName s = false ∧ requireCode s ≠ .ok ()

theorem name_grammars (s : String) : NameGrammars s := by
  refine ⟨isValidTypeName_iff, requireCode_iff, fun c present wide => ⟨?_, ?_⟩⟩
  · apply Bool.eq_false_iff.mpr
    intro valid
    have narrow := ascii_of_mem ascii_letter ascii_dot_or_dash ascii_alphanumeric (isValidTypeName_iff.mp valid).2
    exact absurd (narrow c present) (not_lt.mpr wide)
  · intro valid
    have narrow := ascii_of_mem ascii_letter ascii_dash ascii_alphanumeric (requireCode_iff.mp valid).2
    exact absurd (narrow c present) (not_lt.mpr wide)

end RuntimeHost.Protocol

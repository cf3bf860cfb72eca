import Mathlib

namespace RuntimeHost.Foundation

/-- The last `width` base-256 digits of a number, most significant first. -/
def bigEndian : (width : Nat) → (number : Nat) → List UInt8
  | 0, _ => []
  | width + 1, number => bigEndian width (number / 256) ++ [UInt8.ofNat number]

def ofBigEndian (bytes : List UInt8) : Nat :=
  bytes.foldl (fun number byte => 256 * number + byte.toNat) 0

@[simp] theorem bigEndian_length (width number : Nat) : (bigEndian width number).length = width := by
  induction width generalizing number with
  | zero => rfl
  | succ width ih => simp [bigEndian, ih]

theorem ofBigEndian_concat (bytes : List UInt8) (byte : UInt8) :
    ofBigEndian (bytes ++ [byte]) = 256 * ofBigEndian bytes + byte.toNat := by
  simp [ofBigEndian]

theorem ofBigEndian_bigEndian (width number : Nat) :
    ofBigEndian (bigEndian width number) = number % 256 ^ width := by
  induction width generalizing number with
  | zero => simp [bigEndian, ofBigEndian, Nat.mod_one]
  | succ width ih =>
    have digit : (UInt8.ofNat number).toNat = number % 256 := by simp
    rw [bigEndian, ofBigEndian_concat, ih, digit, Nat.pow_succ, Nat.mul_comm (256 ^ width),
      Nat.mod_mul]
    omega

theorem ofBigEndian_of_lt {width number : Nat} (bound : number < 256 ^ width) :
    ofBigEndian (bigEndian width number) = number := by
  rw [ofBigEndian_bigEndian, Nat.mod_eq_of_lt bound]

theorem ofBigEndian_lt (bytes : List UInt8) : ofBigEndian bytes < 256 ^ bytes.length := by
  induction bytes using List.reverseRecOn with
  | nil => decide
  | append_singleton bytes byte ih =>
    have bound := byte.toNat_lt
    rw [ofBigEndian_concat, List.length_append, List.length_singleton, Nat.pow_succ]
    omega

theorem bigEndian_ofBigEndian (bytes : List UInt8) :
    bigEndian bytes.length (ofBigEndian bytes) = bytes := by
  induction bytes using List.reverseRecOn with
  | nil => rfl
  | append_singleton bytes byte ih =>
    have bound := byte.toNat_lt
    have quotient : (256 * ofBigEndian bytes + byte.toNat) / 256 = ofBigEndian bytes := by omega
    have digit : UInt8.ofNat (256 * ofBigEndian bytes + byte.toNat) = byte := by
      apply UInt8.toNat_inj.mp
      simp only [UInt8.toNat_ofNat']
      omega
    rw [List.length_append, List.length_singleton, bigEndian, ofBigEndian_concat, quotient, ih, digit]

theorem eq_bigEndian_iff {width number : Nat} {bytes : List UInt8} (bound : number < 256 ^ width)
    (length : bytes.length = width) : ofBigEndian bytes = number ↔ bytes = bigEndian width number := by
  constructor
  · intro same
    rw [← same, ← length, bigEndian_ofBigEndian]
  · intro same
    rw [same, ofBigEndian_of_lt bound]

abbrev be32 (number : Nat) : List UInt8 := bigEndian 4 number

abbrev be64 (word : UInt64) : List UInt8 := bigEndian 8 word.toNat

def ofBe64 (bytes : List UInt8) : UInt64 := UInt64.ofNat (ofBigEndian bytes)

theorem ofBe64_be64 (word : UInt64) : ofBe64 (be64 word) = word := by
  have bound : word.toNat < 256 ^ 8 := word.toNat_lt
  rw [ofBe64, be64, ofBigEndian_of_lt bound]
  exact UInt64.ofNat_toNat

theorem ofBe64_eq_iff {bytes : List UInt8} {word : UInt64} (length : bytes.length = 8) :
    ofBe64 bytes = word ↔ bytes = be64 word := by
  constructor
  · intro same
    have bound : ofBigEndian bytes < 2 ^ 64 := by
      have bound := ofBigEndian_lt bytes
      rw [length] at bound
      exact bound
    have number : ofBigEndian bytes = word.toNat := by
      rw [← same, ofBe64, UInt64.toNat_ofNat', Nat.mod_eq_of_lt bound]
    exact (eq_bigEndian_iff word.toNat_lt length).mp number
  · intro same
    rw [same, ofBe64_be64]

end RuntimeHost.Foundation

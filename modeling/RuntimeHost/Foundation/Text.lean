import Mathlib

namespace RuntimeHost.Foundation

def utf8 (text : String) : List UInt8 := text.toUTF8.data.toList

def ofUtf8 (bytes : List UInt8) : Option String := String.fromUTF8? ⟨bytes.toArray⟩

theorem ofUtf8_eq_some {bytes : List UInt8} {text : String} :
    ofUtf8 bytes = some text ↔ bytes = utf8 text := by
  unfold ofUtf8 String.fromUTF8?
  constructor
  · intro decoded
    split at decoded
    · cases decoded
      simp [utf8, String.fromUTF8]
    · cases decoded
  · intro same
    have array : (⟨bytes.toArray⟩ : ByteArray) = text.toByteArray := by
      apply ByteArray.ext
      simp [same, utf8]
    have valid : ByteArray.IsValidUTF8 ⟨bytes.toArray⟩ := by
      rw [array]
      exact text.isValidUTF8
    rw [dif_pos valid]
    congr 1
    apply String.toByteArray_inj.mp
    exact array

@[simp] theorem ofUtf8_utf8 (text : String) : ofUtf8 (utf8 text) = some text :=
  ofUtf8_eq_some.mpr rfl

@[simp] theorem utf8_empty : utf8 "" = [] := rfl

@[simp] theorem utf8_append (left right : String) : utf8 (left ++ right) = utf8 left ++ utf8 right := by
  simp [utf8]

theorem utf8_cons (c : Char) (rest : List Char) :
    utf8 (String.ofList (c :: rest)) = String.utf8EncodeChar c ++ utf8 (String.ofList rest) := by
  show (c :: rest).utf8Encode.data.toList = _ ++ rest.utf8Encode.data.toList
  rw [List.utf8Encode_cons, List.utf8Encode_singleton]
  simp

def isWhiteSpace (c : Char) : Bool :=
  let n := c.toNat
  (0x9 ≤ n && n ≤ 0xd) || n == 0x20 || n == 0x85 || n == 0xa0 || n == 0x1680 ||
    (0x2000 ≤ n && n ≤ 0x200a) || n == 0x2028 || n == 0x2029 || n == 0x202f || n == 0x205f ||
    n == 0x3000

def trim (text : String) : List Char :=
  (text.toList.dropWhile isWhiteSpace).rdropWhile isWhiteSpace

theorem trim_eq_nil_iff (text : String) : trim text = [] ↔ ∀ c ∈ text.toList, isWhiteSpace c = true := by
  rw [trim, List.rdropWhile_eq_nil_iff]
  constructor
  · intro blank
    rw [← List.dropWhile_eq_nil_iff]
    cases kept : text.toList.dropWhile isWhiteSpace with
    | nil => rfl
    | cons c rest =>
      have first := List.head?_dropWhile_not isWhiteSpace text.toList
      rw [kept] at first blank
      simp [blank c (by simp)] at first
  · intro blank c member
    exact blank c ((List.dropWhile_sublist _).subset member)

end RuntimeHost.Foundation

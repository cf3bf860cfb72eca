import RuntimeHost.Sdk.Encoder
import RuntimeHost.Sdk.Decoder

namespace RuntimeHost.Sdk

open Foundation

/-- What a stretch of codec work writes or consumes: bytes, content budget and value budget. -/
@[ext] structure Footprint where
  wire : List UInt8
  content : Nat
  values : Nat

namespace Footprint

def zero : Footprint := ⟨[], 0, 0⟩

def bytes (wire : List UInt8) : Footprint := ⟨wire, 0, 0⟩

def add (left right : Footprint) : Footprint :=
  ⟨left.wire ++ right.wire, left.content + right.content, left.values + right.values⟩

instance : Append Footprint := ⟨add⟩

@[simp] theorem append_wire (left right : Footprint) : (left ++ right).wire = left.wire ++ right.wire := rfl
@[simp] theorem append_content (left right : Footprint) :
    (left ++ right).content = left.content + right.content := rfl
@[simp] theorem append_values (left right : Footprint) :
    (left ++ right).values = left.values + right.values := rfl
@[simp] theorem zero_append (f : Footprint) : zero ++ f = f := by ext1 <;> simp [zero]
@[simp] theorem append_zero (f : Footprint) : f ++ zero = f := by ext1 <;> simp [zero]
theorem append_assoc (a b c : Footprint) : a ++ b ++ c = a ++ (b ++ c) := by
  ext1 <;> simp [Nat.add_assoc]

def node (tag : UInt8) : Footprint := ⟨[0x92, tag], 0, 1⟩

def metadata (text : String) : Footprint :=
  bytes (0xdb :: be32 (utf8 text).length ++ utf8 text)

def text (text : String) : Footprint :=
  ⟨0xdb :: be32 (utf8 text).length ++ utf8 text, (utf8 text).length, 0⟩

end Footprint

mutual

def Value.payload : Value → Footprint
  | .null => .bytes [0xc0]
  | .bool b => .bytes [if b then 0xc3 else 0xc2]
  | .integer i => .bytes (0xd3 :: be64 i.toUInt64)
  | .float x => .bytes (0xcb :: be64 x.bits)
  | .string s => .text s
  | .bytes bs => ⟨0xc6 :: be32 bs.length ++ bs, bs.length, 0⟩
  | .array vs => .bytes (0xdd :: be32 vs.length) ++ elementsFootprint vs
  | .map es => .bytes (0xdd :: be32 es.length) ++ entriesFootprint es
  | .handle h =>
    .bytes (0x93 :: 0xcf :: be64 h.objectId ++ 0xcf :: be64 h.generation) ++ .metadata h.typeName
  | .error e => .metadata e.code.wireCode

def elementsFootprint : List Value → Footprint
  | [] => .zero
  | v :: vs => .node (tag v) ++ v.payload ++ elementsFootprint vs

def entriesFootprint : List (String × Value) → Footprint
  | [] => .zero
  | (key, v) :: es => .bytes [0x92] ++ .text key ++ (.node (tag v) ++ v.payload) ++ entriesFootprint es

end

/-- The bytes of a value and what it takes from the two budgets, whatever the limits say. -/
def Value.footprint (v : Value) : Footprint := .node (tag v) ++ v.payload

@[simp] theorem elementsFootprint_nil : elementsFootprint [] = .zero := by rw [elementsFootprint]

@[simp] theorem elementsFootprint_cons (v : Value) (vs : List Value) :
    elementsFootprint (v :: vs) = v.footprint ++ elementsFootprint vs := by
  rw [elementsFootprint, Value.footprint]

@[simp] theorem entriesFootprint_nil : entriesFootprint [] = .zero := by rw [entriesFootprint]

@[simp] theorem entriesFootprint_cons (key : String) (v : Value) (es : List (String × Value)) :
    entriesFootprint ((key, v) :: es) =
      .bytes [0x92] ++ .text key ++ v.footprint ++ entriesFootprint es := by
  rw [entriesFootprint, Value.footprint]

mutual

/-- The limits that do not depend on the running budgets, for a value with `levels` levels of nesting
    left. -/
def Value.Fits (levels : Nat) (v : Value) : Prop :=
  0 < levels ∧
  match v with
  | .null => True
  | .bool _ => True
  | .integer _ => True
  | .float x => x.isFinite
  | .string s => (utf8 s).length ≤ maxStringBytes
  | .bytes bs => bs.length ≤ maxByteBytes
  | .array vs => vs.length ≤ maxContainerEntries ∧ elementsFit (levels - 1) vs
  | .map es => es.length ≤ maxContainerEntries ∧ (es.map Prod.fst).Nodup ∧ entriesFit (levels - 1) es
  | .handle h => HandleValue.new h.objectId h.generation h.typeName = .ok h
  | .error _ => True

def elementsFit (levels : Nat) (vs : List Value) : Prop :=
  match vs with
  | [] => True
  | v :: vs => v.Fits levels ∧ elementsFit levels vs

def entriesFit (levels : Nat) (es : List (String × Value)) : Prop :=
  match es with
  | [] => True
  | (key, v) :: es => (utf8 key).length ≤ maxStringBytes ∧ v.Fits levels ∧ entriesFit levels es

end

theorem entriesFit_iff (levels : Nat) (es : List (String × Value)) :
    entriesFit levels es ↔ ∀ e ∈ es, (utf8 e.1).length ≤ maxStringBytes ∧ e.2.Fits levels := by
  induction es with
  | nil => simp [entriesFit]
  | cons e es ih =>
    obtain ⟨key, v⟩ := e
    simp [entriesFit, ih, and_assoc]

def Footprint.Within (f : Footprint) (content values : Nat) : Prop :=
  content + f.content ≤ maxTotalContentBytes ∧ values + f.values ≤ maxTotalValues

theorem Footprint.within_append {f g : Footprint} {content values : Nat} :
    (f ++ g).Within content values ↔
      f.Within content values ∧ g.Within (content + f.content) (values + f.values) := by
  simp only [Footprint.Within, append_content, append_values]
  omega

def Value.Encodable (v : Value) : Prop :=
  v.Fits (maxDepth + 1) ∧ v.footprint.Within 0 0

end RuntimeHost.Sdk

import RuntimeHost.Sdk.EncoderExact

namespace RuntimeHost.Sdk

open Foundation

mutual

def Value.nodes (depth : Nat) (v : Value) : List (Nat × Value) :=
  (depth, v) :: match v with
  | .array vs => elementsNodes (depth + 1) vs
  | .map es => entriesNodes (depth + 1) es
  | _ => []

def elementsNodes (depth : Nat) (vs : List Value) : List (Nat × Value) :=
  match vs with
  | [] => []
  | v :: vs => v.nodes depth ++ elementsNodes depth vs

def entriesNodes (depth : Nat) (es : List (String × Value)) : List (Nat × Value) :=
  match es with
  | [] => []
  | (_, v) :: es => v.nodes depth ++ entriesNodes depth es

end

/-- The bytes that a value adds to the total content, without the values in it. -/
def Value.ownContent : Value → Nat
  | .string s => (utf8 s).length
  | .bytes bs => bs.length
  | .map es => (es.map fun e => (utf8 e.1).length).sum
  | _ => 0

def Value.Sound : Value → Prop
  | .float x => x.isFinite
  | .string s => (utf8 s).length ≤ maxStringBytes
  | .bytes bs => bs.length ≤ maxByteBytes
  | .array vs => vs.length ≤ maxContainerEntries
  | .map es => es.length ≤ maxContainerEntries ∧ (es.map Prod.fst).Nodup ∧
    ∀ e ∈ es, (utf8 e.1).length ≤ maxStringBytes
  | .handle h => 0 < h.objectId ∧ h.objectId ≤ i64Max ∧ 0 < h.generation ∧ h.generation ≤ i64Max ∧
    isValidTypeName h.typeName
  | _ => True

def contentOf (nodes : List (Nat × Value)) : Nat := (nodes.map fun node => node.2.ownContent).sum

theorem contentOf_cons (node : Nat × Value) (nodes : List (Nat × Value)) :
    contentOf (node :: nodes) = node.2.ownContent + contentOf nodes := by
  simp [contentOf]

theorem contentOf_append (left right : List (Nat × Value)) :
    contentOf (left ++ right) = contentOf left + contentOf right := by
  simp [contentOf]

theorem HandleValue.new_self_iff (h : HandleValue) :
    HandleValue.new h.objectId h.generation h.typeName = .ok h ↔ (Value.handle h).Sound := by
  have short : isValidTypeName h.typeName → (utf8 h.typeName).length ≤ 128 := by
    intro valid
    unfold isValidTypeName at valid
    split at valid
    · cases valid
    · rename_i bounds
      simp at bounds
      exact bounds.2
  have positive : ∀ id : UInt64, 0 < id ↔ id ≠ 0 := fun id => UInt64.pos_iff_ne_zero
  simp only [HandleValue.new, ite_error_eq_ok, Value.Sound, positive, not_or, not_not, not_lt]
  grind

section Tree

variable (levels depth : Nat)

/-- Every node lies within `levels` levels below `depth` and keeps its own limits. -/
def AllSound (nodes : List (Nat × Value)) : Prop := ∀ node ∈ nodes, node.1 < depth + levels ∧ node.2.Sound

theorem allSound_append (left right : List (Nat × Value)) :
    AllSound levels depth (left ++ right) ↔ AllSound levels depth left ∧ AllSound levels depth right := by
  exact List.forall_mem_append

theorem allSound_cons (node : Nat × Value) (nodes : List (Nat × Value)) :
    AllSound levels depth (node :: nodes) ↔
      (node.1 < depth + levels ∧ node.2.Sound) ∧ AllSound levels depth nodes := by
  simp only [AllSound, List.mem_cons, forall_eq_or_imp]

end Tree

mutual

theorem nodes_values (depth : Nat) (v : Value) : (v.nodes depth).length = v.footprint.values := by
  unfold Value.nodes
  cases v with
  | array vs =>
    have inside := elementsNodes_values (depth + 1) vs
    simp [Value.footprint, Value.payload, Footprint.node, Footprint.bytes, inside, Nat.add_comm]
  | map es =>
    have inside := entriesNodes_values (depth + 1) es
    simp [Value.footprint, Value.payload, Footprint.node, Footprint.bytes, inside, Nat.add_comm]
  | _ => simp [Value.footprint, Value.payload, Footprint.node, Footprint.bytes, Footprint.text, Footprint.metadata]

theorem elementsNodes_values (depth : Nat) (vs : List Value) :
    (elementsNodes depth vs).length = (elementsFootprint vs).values := by
  cases vs with
  | nil => simp [elementsNodes, Footprint.zero]
  | cons v vs =>
    have first := nodes_values depth v
    have others := elementsNodes_values depth vs
    simp [elementsNodes, first, others]

theorem entriesNodes_values (depth : Nat) (es : List (String × Value)) :
    (entriesNodes depth es).length = (entriesFootprint es).values := by
  rcases es with _ | ⟨⟨key, v⟩, es⟩
  · simp [entriesNodes, Footprint.zero]
  · have first := nodes_values depth v
    have others := entriesNodes_values depth es
    simp [entriesNodes, first, others, Footprint.bytes, Footprint.text]

end

mutual

theorem nodes_content (depth : Nat) (v : Value) : contentOf (v.nodes depth) = v.footprint.content := by
  unfold Value.nodes
  cases v with
  | array vs =>
    have inside := elementsNodes_content (depth + 1) vs
    simp [contentOf_cons, Value.footprint, Value.payload, Footprint.node, Footprint.bytes, Value.ownContent, inside]
  | map es =>
    have inside := entriesNodes_content (depth + 1) es
    simp [contentOf_cons, Value.footprint, Value.payload, Footprint.node, Footprint.bytes, Value.ownContent, inside]
  | _ =>
    simp [contentOf, Value.footprint, Value.payload, Footprint.node, Footprint.bytes, Footprint.text,
      Footprint.metadata, Value.ownContent]

theorem elementsNodes_content (depth : Nat) (vs : List Value) :
    contentOf (elementsNodes depth vs) = (elementsFootprint vs).content := by
  cases vs with
  | nil => simp [elementsNodes, Footprint.zero, contentOf]
  | cons v vs =>
    have first := nodes_content depth v
    have others := elementsNodes_content depth vs
    simp [elementsNodes, contentOf_append, first, others]

theorem entriesNodes_content (depth : Nat) (es : List (String × Value)) :
    (es.map fun e => (utf8 e.1).length).sum + contentOf (entriesNodes depth es) = (entriesFootprint es).content := by
  rcases es with _ | ⟨⟨key, v⟩, es⟩
  · simp [entriesNodes, Footprint.zero, contentOf]
  · have first := nodes_content depth v
    have others := entriesNodes_content depth es
    simp [entriesNodes, contentOf_append, first, ← others, Footprint.bytes, Footprint.text]
    omega

end

mutual

theorem fits_iff_allSound (levels depth : Nat) (v : Value) :
    v.Fits levels ↔ AllSound levels depth (v.nodes depth) := by
  have inner : 0 < levels → depth + 1 + (levels - 1) = depth + levels := by omega
  unfold Value.Fits Value.nodes
  rw [allSound_cons]
  cases v with
  | array vs =>
    have inside := elementsFit_iff_allSound (levels - 1) (depth + 1) vs
    simp only [inside, AllSound, Value.Sound]
    grind
  | map es =>
    have inside := entriesFit_iff_allSound (levels - 1) (depth + 1) es
    simp only [inside, AllSound, Value.Sound]
    grind
  | handle h =>
    simp only [HandleValue.new_self_iff, AllSound]
    grind
  | _ =>
    simp only [AllSound, Value.Sound]
    grind

theorem elementsFit_iff_allSound (levels depth : Nat) (vs : List Value) :
    elementsFit levels vs ↔ AllSound levels depth (elementsNodes depth vs) := by
  cases vs with
  | nil => simp [elementsFit, elementsNodes, AllSound]
  | cons v vs =>
    have first := fits_iff_allSound levels depth v
    have others := elementsFit_iff_allSound levels depth vs
    rw [elementsFit, elementsNodes, allSound_append, first, others]

theorem entriesFit_iff_allSound (levels depth : Nat) (es : List (String × Value)) :
    entriesFit levels es ↔ (∀ e ∈ es, (utf8 e.1).length ≤ maxStringBytes) ∧
      AllSound levels depth (entriesNodes depth es) := by
  rcases es with _ | ⟨⟨key, v⟩, es⟩
  · simp [entriesFit, entriesNodes, AllSound]
  · have first := fits_iff_allSound levels depth v
    have others := entriesFit_iff_allSound levels depth es
    rw [entriesFit, entriesNodes, allSound_append, first, others, List.forall_mem_cons]
    tauto

end

/-- What the encoder checks along its walk comes to the limits on the whole tree. -/
theorem toWire_isOk_iff_withinLimits (v : Value) :
    (∃ b, v.toWire = .ok b) ↔
      (∀ node ∈ v.nodes 0, node.1 ≤ maxDepth ∧ node.2.Sound) ∧ (v.nodes 0).length ≤ maxTotalValues ∧
        contentOf (v.nodes 0) ≤ maxTotalContentBytes := by
  simp only [toWire_eq_ok_iff, exists_and_left, exists_eq, and_true, Value.Encodable, Footprint.Within, Nat.zero_add]
  rw [fits_iff_allSound (maxDepth + 1) 0 v, nodes_values, nodes_content]
  simp only [AllSound, Nat.zero_add, Nat.lt_succ_iff]
  tauto

end RuntimeHost.Sdk

import RuntimeHost.Foundation.Program

namespace RuntimeHost.Foundation

open Function

inductive MemoryOp (Region : Type) where
  | read (region : Region) (offset length : Nat)
  | write (region : Region) (offset : Nat) (bytes : List UInt8)

def MemoryOp.Answer {Region : Type} : MemoryOp Region → Type
  | .read .. => List UInt8
  | .write .. => Unit

abbrev MemoryProg (Region : Type) := Prog (MemoryOp Region) MemoryOp.Answer

abbrev Memory (Region : Type) := Region → List UInt8

structure Stretch (Region : Type) where
  region : Region
  offset : Nat
  length : Nat
  deriving DecidableEq

/-- What a program returns, what it leaves in the regions, and what it has read on the way. -/
structure MemoryOutcome (Region α : Type) where
  result : α
  memory : Memory Region
  reads : List (Stretch Region)

namespace MemoryOutcome

variable {Region α : Type}

def after (reads : List (Stretch Region)) (outcome : MemoryOutcome Region α) : MemoryOutcome Region α :=
  { outcome with reads := reads ++ outcome.reads }

@[simp] theorem after_nil (outcome : MemoryOutcome Region α) : outcome.after [] = outcome := rfl

@[simp] theorem after_after (reads reads' : List (Stretch Region)) (outcome : MemoryOutcome Region α) :
    (outcome.after reads').after reads = outcome.after (reads ++ reads') := by
  simp [after]

end MemoryOutcome

namespace MemoryProg

variable {Region α β : Type}

def read (region : Region) (offset length : Nat) : MemoryProg Region (List UInt8) :=
  .perform (MemoryOp.read region offset length)

def write (region : Region) (offset : Nat) (bytes : List UInt8) : MemoryProg Region Unit :=
  .perform (MemoryOp.write region offset bytes)

variable [DecidableEq Region]

def run : MemoryProg Region α → Memory Region → Option (MemoryOutcome Region α)
  | .done a, memory => some ⟨a, memory, []⟩
  | .act (.read region offset length) next, memory =>
    if offset + length ≤ (memory region).length then
      (run (next (((memory region).drop offset).take length)) memory).map (.after [⟨region, offset, length⟩])
    else none
  | .act (.write region offset bytes) next, memory =>
    if offset + bytes.length ≤ (memory region).length then
      run (next ()) (update memory region
        ((memory region).take offset ++ bytes ++ (memory region).drop (offset + bytes.length)))
    else none

variable {memory : Memory Region}

@[simp] theorem run_pure (a : α) : run (pure a) memory = some ⟨a, memory, []⟩ := rfl

theorem run_read {region : Region} {offset length : Nat} {next : List UInt8 → MemoryProg Region α}
    (inside : offset + length ≤ (memory region).length) :
    run (read region offset length >>= next) memory =
      (run (next (((memory region).drop offset).take length)) memory).map (.after [⟨region, offset, length⟩]) :=
  if_pos inside

theorem run_write {region : Region} {offset : Nat} {bytes : List UInt8} {next : Unit → MemoryProg Region α}
    (inside : offset + bytes.length ≤ (memory region).length) :
    run (write region offset bytes >>= next) memory =
      run (next ()) (update memory region
        ((memory region).take offset ++ bytes ++ (memory region).drop (offset + bytes.length))) :=
  if_pos inside

theorem run_bind {p : MemoryProg Region α} {f : α → MemoryProg Region β} {outcome : MemoryOutcome Region α}
    (ran : run p memory = some outcome) :
    run (p >>= f) memory = (run (f outcome.result) outcome.memory).map (.after outcome.reads) := by
  induction p generalizing memory outcome with
  | done a =>
    cases ran
    exact (congrFun Option.map_id _).symm
  | act op next ih =>
    cases op with
    | read region offset length =>
      simp only [run] at ran
      split at ran
      · rename_i inside
        obtain ⟨later, first, same⟩ := Option.map_eq_some_iff.mp ran
        subst same
        simp only [Prog.act_bind, run, if_pos inside, ih _ first, Option.map_map]
        rfl
      · cases ran
    | write region offset bytes =>
      simp only [run] at ran
      split at ran
      · rename_i inside
        simp only [Prog.act_bind, run, if_pos inside, ih _ ran]
      · cases ran

end MemoryProg

end RuntimeHost.Foundation

import Mathlib

namespace RuntimeHost.Foundation

/-- What stands between the slashes of a path; nothing at all stands for the current directory. -/
inductive Part where
  | current
  | parent
  | name (text : String)
  deriving DecidableEq

structure FilePath where
  absolute : Bool
  parts : List Part
  deriving DecidableEq

inductive FileKind where
  | directory
  | file
  | other
  deriving DecidableEq

inductive Node where
  | entry (kind : FileKind)
  | link (target : FilePath)
  deriving DecidableEq

abbrev Location := List String

/-- A tree of directories, files and symbolic links, the number of links that one path may follow, and the directory that
relative paths begin in. -/
structure FileSystem where
  node : Location → Option Node
  maxLinks : ℕ
  cwd : Location
  root : node [] = some (.entry .directory)
  parents : ∀ location name, node (location ++ [name]) ≠ none → node location = some (.entry .directory)
  here : node cwd = some (.entry .directory)

inductive PathError where
  | notFound
  | notADirectory
  | tooManyLinks
  deriving DecidableEq

def Part.text : Part → String
  | .current => "."
  | .parent => ".."
  | .name text => text

def FilePath.text (path : FilePath) : String :=
  (if path.absolute then "/" else "") ++ "/".intercalate (path.parts.map Part.text)

def FilePath.to (location : Location) : FilePath := ⟨true, location.map .name⟩

namespace FileSystem

variable (fs : FileSystem)

inductive Advance where
  | arrived (location : Location)
  | linked (location : Location) (pending : List Part)
  | failed (error : PathError)

def advance : Location → List Part → Advance
  | location, [] => .arrived location
  | location, part :: pending =>
    if fs.node location = some (.entry .directory) then
      match part with
      | .current => advance location pending
      | .parent => advance location.dropLast pending
      | .name text =>
        match fs.node (location ++ [text]) with
        | none => .failed .notFound
        | some (.entry _) => advance (location ++ [text]) pending
        | some (.link target) => .linked (if target.absolute then [] else location) (target.parts ++ pending)
    else .failed .notADirectory

theorem advance_cons {location : Location} {part : Part} {pending : List Part} : fs.advance location (part :: pending) =
    if fs.node location = some (.entry .directory) then
      match part with
      | .current => fs.advance location pending
      | .parent => fs.advance location.dropLast pending
      | .name text =>
        match fs.node (location ++ [text]) with
        | none => .failed .notFound
        | some (.entry _) => fs.advance (location ++ [text]) pending
        | some (.link target) => .linked (if target.absolute then [] else location) (target.parts ++ pending)
    else .failed .notADirectory := rfl

def walk : ℕ → Location → List Part → Except PathError Location
  | links, location, pending =>
    match fs.advance location pending with
    | .arrived location => .ok location
    | .failed error => .error error
    | .linked location pending =>
      match links with
      | 0 => .error .tooManyLinks
      | links + 1 => walk links location pending

def canonicalize (path : FilePath) : Except PathError Location :=
  fs.walk fs.maxLinks (if path.absolute then [] else fs.cwd) path.parts

/-- The path leads from one location to the other over a number of links. -/
inductive Leads : Location → List Part → ℕ → Location → Prop where
  | arrive (location) : Leads location [] 0 location
  | current {location pending links target} (directory : fs.node location = some (.entry .directory))
    (rest : Leads location pending links target) : Leads location (.current :: pending) links target
  | parent {location pending links target} (directory : fs.node location = some (.entry .directory))
    (rest : Leads location.dropLast pending links target) : Leads location (.parent :: pending) links target
  | name {location text kind pending links target} (directory : fs.node location = some (.entry .directory))
    (found : fs.node (location ++ [text]) = some (.entry kind)) (rest : Leads (location ++ [text]) pending links target) :
    Leads location (.name text :: pending) links target
  | link {location text path pending links target} (directory : fs.node location = some (.entry .directory))
    (found : fs.node (location ++ [text]) = some (.link path))
    (rest : Leads (if path.absolute then [] else location) (path.parts ++ pending) links target) :
    Leads location (.name text :: pending) (links + 1) target

def Real (location : Location) : Prop := ∃ kind, fs.node location = some (.entry kind)

variable {fs} {location location' target : Location} {pending pending' : List Part} {links links' : ℕ}

theorem real_root : fs.Real [] := ⟨_, fs.root⟩

theorem directory_of_found (name : String) (rest : List String) (found : fs.node (location ++ name :: rest) ≠ none) :
    fs.node location = some (.entry .directory) := by
  induction rest using List.reverseRecOn with
  | nil => exact fs.parents location name found
  | append_singleton rest last ih =>
    have upper : fs.node (location ++ name :: rest) = some (.entry .directory) := by
      apply fs.parents (location ++ name :: rest) last
      simpa using found
    apply ih
    rw [upper]
    exact Option.some_ne_none _

theorem Real.dropLast (real : fs.Real location) : fs.Real location.dropLast := by
  cases location using List.reverseRecOn with
  | nil => exact real
  | append_singleton location name =>
    obtain ⟨kind, found⟩ := real
    rw [List.dropLast_concat]
    refine ⟨_, fs.parents location name ?_⟩
    rw [found]
    exact Option.some_ne_none _

theorem Leads.real (leads : fs.Leads location pending links target) (real : fs.Real location) : fs.Real target := by
  induction leads with
  | arrive location => exact real
  | current directory rest ih => exact ih real
  | parent directory rest ih => exact ih real.dropLast
  | name directory found rest ih => exact ih ⟨_, found⟩
  | @link location text path pending links target directory found rest ih =>
    apply ih
    split
    · exact real_root
    · exact real

theorem leads_names {rest : List String} (real : fs.Real (location ++ rest)) :
    fs.Leads location (rest.map .name) 0 (location ++ rest) := by
  induction rest generalizing location with
  | nil =>
    rw [List.append_nil]
    exact .arrive location
  | cons name rest ih =>
    obtain ⟨kind, found⟩ := real
    have present : fs.node (location ++ name :: rest) ≠ none := by
      rw [found]
      exact Option.some_ne_none _
    have next : fs.Real (location ++ [name] ++ rest) := ⟨kind, by simpa using found⟩
    have here : ∃ kind, fs.node (location ++ [name]) = some (.entry kind) := by
      cases rest with
      | nil => exact ⟨kind, found⟩
      | cons name' rest =>
        refine ⟨_, directory_of_found name' rest ?_⟩
        simpa using present
    obtain ⟨kind', found'⟩ := here
    have leads := ih next
    rw [List.append_assoc] at leads
    exact .name (directory_of_found name rest present) found' leads

theorem leads_of_advance_arrived (arrives : fs.advance location pending = .arrived target) :
    fs.Leads location pending 0 target := by
  induction pending generalizing location with
  | nil =>
    cases arrives
    exact .arrive target
  | cons part pending ih =>
    unfold advance at arrives
    split at arrives
    · rename_i directory
      cases part with
      | current => exact .current directory (ih arrives)
      | parent => exact .parent directory (ih arrives)
      | name text =>
        dsimp only at arrives
        split at arrives
        · cases arrives
        · rename_i kind found
          exact .name directory found (ih arrives)
        · cases arrives
    · cases arrives

theorem leads_of_advance_linked (linked : fs.advance location pending = .linked location' pending')
    (leads : fs.Leads location' pending' links target) : fs.Leads location pending (links + 1) target := by
  induction pending generalizing location with
  | nil => cases linked
  | cons part pending ih =>
    unfold advance at linked
    split at linked
    · rename_i directory
      cases part with
      | current => exact .current directory (ih linked)
      | parent => exact .parent directory (ih linked)
      | name text =>
        dsimp only at linked
        split at linked
        · cases linked
        · rename_i kind found
          exact .name directory found (ih linked)
        · rename_i path found
          cases linked
          exact .link directory found leads
    · cases linked

theorem Leads.advance (leads : fs.Leads location pending links target) :
    (links = 0 ∧ fs.advance location pending = .arrived target) ∨
      ∃ links' location' pending', links = links' + 1 ∧ fs.advance location pending = .linked location' pending' ∧
        fs.Leads location' pending' links' target := by
  induction leads with
  | arrive location => exact .inl ⟨rfl, rfl⟩
  | current directory rest ih | parent directory rest ih =>
    unfold FileSystem.advance
    rw [if_pos directory]
    exact ih
  | name directory found rest ih =>
    unfold FileSystem.advance
    rw [if_pos directory]
    simp only [found]
    exact ih
  | link directory found rest ih =>
    refine .inr ⟨_, _, _, rfl, ?_, rest⟩
    unfold FileSystem.advance
    rw [if_pos directory]
    simp only [found]

theorem Leads.walk (leads : fs.Leads location pending links target) (budget : ℕ) :
    fs.walk budget location pending = if links ≤ budget then .ok target else .error .tooManyLinks := by
  induction budget generalizing location pending links with
  | zero =>
    unfold FileSystem.walk
    rcases leads.advance with ⟨rfl, arrives⟩ | ⟨links, location', pending', rfl, linked, rest⟩
    · simp only [arrives]
      rfl
    · simp only [linked]
      rfl
  | succ budget ih =>
    unfold FileSystem.walk
    rcases leads.advance with ⟨rfl, arrives⟩ | ⟨links, location', pending', rfl, linked, rest⟩
    · simp only [arrives]
      rfl
    · simp only [linked, ih rest, Nat.succ_le_succ_iff]

theorem leads_of_walk {budget : ℕ} (walks : fs.walk budget location pending = .ok target) :
    ∃ links, links ≤ budget ∧ fs.Leads location pending links target := by
  induction budget generalizing location pending with
  | zero =>
    unfold walk at walks
    split at walks
    · rename_i arrives
      cases walks
      exact ⟨0, le_rfl, leads_of_advance_arrived arrives⟩
    · cases walks
    · cases walks
  | succ budget ih =>
    unfold walk at walks
    split at walks
    · rename_i arrives
      cases walks
      exact ⟨0, Nat.zero_le _, leads_of_advance_arrived arrives⟩
    · cases walks
    · rename_i linked
      obtain ⟨links, few, leads⟩ := ih walks
      exact ⟨links + 1, Nat.succ_le_succ few, leads_of_advance_linked linked leads⟩

theorem advance_append (rest : List Part) : fs.advance location (pending ++ rest) =
    match fs.advance location pending with
    | .arrived middle => fs.advance middle rest
    | .linked location' pending' => .linked location' (pending' ++ rest)
    | .failed error => .failed error := by
  induction pending generalizing location with
  | nil => rfl
  | cons part pending ih =>
    rw [List.cons_append, advance_cons, advance_cons]
    by_cases directory : fs.node location = some (.entry .directory)
    · rw [if_pos directory, if_pos directory]
      cases part with
      | current => exact ih
      | parent => exact ih
      | name text =>
        dsimp only
        cases fs.node (location ++ [text]) with
        | none => rfl
        | some node =>
          cases node with
          | entry kind => exact ih
          | link target =>
            dsimp only
            rw [List.append_assoc]
    · rw [if_neg directory, if_neg directory]

theorem Leads.walk_append (leads : fs.Leads location pending links location') (budget : ℕ) (enough : links ≤ budget)
    (rest : List Part) : fs.walk budget location (pending ++ rest) = fs.walk (budget - links) location' rest := by
  induction budget generalizing location pending links with
  | zero =>
    obtain rfl := Nat.le_zero.mp enough
    rcases leads.advance with ⟨-, arrives⟩ | ⟨links', _, _, same, -⟩
    · rw [Nat.sub_zero]
      unfold FileSystem.walk
      simp only [advance_append, arrives]
    · cases same
  | succ budget ih =>
    rcases leads.advance with ⟨rfl, arrives⟩ | ⟨links, location'', pending'', rfl, linked, leads'⟩
    · rw [Nat.sub_zero]
      unfold FileSystem.walk
      simp only [advance_append, arrives]
    · rw [Nat.add_sub_add_right, ← ih leads' (Nat.le_of_succ_le_succ enough)]
      conv_lhs => unfold FileSystem.walk
      simp only [advance_append, linked]

theorem walk_fewer (budget more : ℕ) (location : Location) (pending : List Part) :
    fs.walk budget location pending = fs.walk (budget + more) location pending ∨
      fs.walk budget location pending = .error .tooManyLinks := by
  induction budget generalizing location pending with
  | zero =>
    cases advanced : fs.advance location pending with
    | arrived target | failed error =>
      left
      unfold walk
      simp only [advanced]
    | linked location' pending' =>
      right
      unfold walk
      simp only [advanced]
  | succ budget ih =>
    rw [Nat.add_right_comm]
    unfold walk
    cases advanced : fs.advance location pending with
    | arrived target | failed error => exact .inl rfl
    | linked location' pending' => exact ih location' pending'

theorem canonicalize_eq_ok_iff {path : FilePath} : fs.canonicalize path = .ok target ↔
    ∃ links, links ≤ fs.maxLinks ∧ fs.Leads (if path.absolute then [] else fs.cwd) path.parts links target := by
  constructor
  · exact leads_of_walk
  · rintro ⟨links, few, leads⟩
    rw [canonicalize, leads.walk, if_pos few]

theorem real_of_canonicalize {path : FilePath} (canonical : fs.canonicalize path = .ok target) : fs.Real target := by
  obtain ⟨links, -, leads⟩ := canonicalize_eq_ok_iff.mp canonical
  apply leads.real
  split
  · exact real_root
  · exact ⟨_, fs.here⟩

theorem Real.leads (real : fs.Real target) : fs.Leads [] (target.map .name) 0 target := by
  have leads : fs.Leads [] (target.map .name) 0 ([] ++ target) := leads_names real
  exact leads

theorem Real.canonicalize (real : fs.Real target) : fs.canonicalize (.to target) = .ok target :=
  canonicalize_eq_ok_iff.mpr ⟨0, Nat.zero_le _, real.leads⟩

theorem Leads.canonicalize_append (leads : fs.Leads [] (location.map .name) links location') (few : links ≤ fs.maxLinks)
    (rest : List String) :
    fs.canonicalize (.to (location ++ rest)) = fs.walk (fs.maxLinks - links) location' (rest.map .name) := by
  rw [← leads.walk_append fs.maxLinks few, ← List.map_append]
  rfl

def ofEntries (entries : List (Location × Node)) (maxLinks : ℕ) (cwd : Location)
    (root : entries.lookup [] = some (.entry .directory))
    (parents : ∀ entry ∈ entries, entry.1 = [] ∨ entries.lookup entry.1.dropLast = some (.entry .directory))
    (here : entries.lookup cwd = some (.entry .directory)) : FileSystem where
  node location := entries.lookup location
  maxLinks := maxLinks
  cwd := cwd
  root := root
  parents location name found := by
    obtain ⟨node, listed⟩ := Option.ne_none_iff_exists'.mp found
    obtain ⟨_, _, same, -⟩ := List.lookup_eq_some_iff.mp listed
    rcases parents (location ++ [name], node) (same ▸ by simp) with empty | upper
    · simp at empty
    · simpa using upper
  here := here

end FileSystem

end RuntimeHost.Foundation

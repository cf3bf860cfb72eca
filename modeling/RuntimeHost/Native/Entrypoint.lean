import RuntimeHost.Foundation.FilePath
import RuntimeHost.Native.HostError

namespace RuntimeHost.Native

open Foundation Protocol

inductive Component where
  | rootDir
  | curDir
  | parentDir
  | normal (text : String)
  deriving DecidableEq

def Component.ofPart : Part → Option Component
  | .current => none
  | .parent => some .parentDir
  | .name text => some (.normal text)

/-- `Path::components`: a dot counts only at the beginning of a relative path. -/
def components (path : FilePath) : List Component :=
  let first := match path.absolute, path.parts with
    | true, _ => [Component.rootDir]
    | false, .current :: _ => [.curDir]
    | false, _ => []
  first ++ path.parts.filterMap Component.ofPart

def startsWith (path base : FilePath) : Bool := (components base).isPrefixOf (components path)

def join (base path : FilePath) : FilePath :=
  if path.absolute then path else { base with parts := base.parts ++ if path.parts = [] then [.current] else path.parts }

def ioError : PathError → IoError
  | .notFound => ⟨.other, "No such file or directory (os error 2)"⟩
  | .notADirectory => ⟨.other, "Not a directory (os error 20)"⟩
  | .tooManyLinks => ⟨.other, "Too many levels of symbolic links (os error 40)"⟩

variable (fs : FileSystem)

def canonicalize (path : FilePath) : Except PathError FilePath :=
  if path = ⟨false, []⟩ then .error .notFound else (fs.canonicalize path).map .to

def isFile (path : FilePath) : Bool :=
  match fs.canonicalize path with
  | .error _ => false
  | .ok location => fs.node location = some (.entry .file)

def confine (root candidate : FilePath) : Except HostError FilePath :=
  match canonicalize fs candidate with
  | .error error => .error (.io (ioError error))
  | .ok canonical =>
    if ¬startsWith canonical root ∨ ¬isFile fs canonical then .error .entrypointEscape else .ok canonical

def resolveEntrypoint (packageRoot entrypoint : FilePath) : Except HostError FilePath :=
  match canonicalize fs packageRoot with
  | .error error => .error (.io (ioError error))
  | .ok root =>
    if entrypoint.absolute then
      if ¬startsWith entrypoint packageRoot ∧ ¬startsWith entrypoint root then .error .entrypointEscape
      else confine fs root entrypoint
    else confine fs root (join root entrypoint)

section Confinement

variable {fs} {path packageRoot entrypoint candidate : FilePath} {root location : Location}

theorem components_to (location : Location) : components (.to location) = .rootDir :: location.map .normal := by
  show Component.rootDir :: (location.map Part.name).filterMap Component.ofPart = _
  rw [List.filterMap_map]
  exact congrArg _ (congrFun (List.filterMap_eq_map (f := Component.normal)) location)

theorem startsWith_to : startsWith (.to location) (.to root) = true ↔ root <+: location := by
  have injective : Function.Injective Component.normal := fun _ _ => Component.normal.inj
  rw [startsWith, components_to, components_to, List.isPrefixOf_iff_prefix, List.prefix_cons_inj]
  exact List.prefix_map_iff_of_injective injective

theorem canonicalize_eq_ok_iff :
    canonicalize fs path = .ok candidate ↔ path ≠ ⟨false, []⟩ ∧ ∃ location, fs.canonicalize path = .ok location ∧
      candidate = .to location := by
  unfold canonicalize
  split
  · rename_i empty
    constructor
    · intro same
      cases same
    · rintro ⟨named, -⟩
      exact absurd empty named
  · rename_i named
    cases fs.canonicalize path with
    | error error =>
      constructor
      · intro same
        cases same
      · rintro ⟨-, location, same, -⟩
        cases same
    | ok location =>
      constructor
      · intro same
        cases same
        exact ⟨named, location, rfl, rfl⟩
      · rintro ⟨-, location', same, rfl⟩
        cases same
        rfl

theorem isFile_to (real : fs.Real location) :
    isFile fs (.to location) = true ↔ fs.node location = some (.entry .file) := by
  unfold isFile
  rw [real.canonicalize]
  exact decide_eq_true_iff

theorem canonicalize_to_eq (location : Location) : canonicalize fs (.to location) = (fs.canonicalize (.to location)).map .to :=
  if_neg nofun

theorem confine_eq_ok_iff : confine fs (.to root) candidate = .ok path ↔ candidate ≠ ⟨false, []⟩ ∧
    ∃ location, fs.canonicalize candidate = .ok location ∧ root <+: location ∧ fs.node location = some (.entry .file) ∧
      path = .to location := by
  unfold confine
  cases found : canonicalize fs candidate with
  | error error =>
    constructor
    · intro same
      cases same
    · rintro ⟨named, location, canonical, -⟩
      cases found.symm.trans (canonicalize_eq_ok_iff.mpr ⟨named, location, canonical, rfl⟩)
  | ok canonical =>
    obtain ⟨named, location, canonical, rfl⟩ := canonicalize_eq_ok_iff.mp found
    have real := FileSystem.real_of_canonicalize canonical
    simp only [startsWith_to, isFile_to real]
    constructor
    · intro accepted
      split at accepted
      · cases accepted
      · rename_i inside
        cases accepted
        obtain ⟨under, file⟩ := not_or.mp inside
        exact ⟨named, location, canonical, not_not.mp under, not_not.mp file, rfl⟩
    · rintro ⟨-, location', canonical', under, file, rfl⟩
      cases canonical.symm.trans canonical'
      rw [if_neg (not_or.mpr ⟨not_not.mpr under, not_not.mpr file⟩)]

/-- The paths that are accepted for a package are exactly those of the files in the real tree under its real root, and no
link is on the way to any of them. -/
theorem resolveEntrypoint_range : (∃ entrypoint, resolveEntrypoint fs packageRoot entrypoint = .ok path) ↔
    ∃ root location, canonicalize fs packageRoot = .ok (.to root) ∧ root <+: location ∧
      fs.node location = some (.entry .file) ∧ path = .to location := by
  constructor
  · rintro ⟨entrypoint, accepted⟩
    unfold resolveEntrypoint at accepted
    cases found : canonicalize fs packageRoot with
    | error error =>
      rw [found] at accepted
      cases accepted
    | ok root =>
      rw [found] at accepted
      obtain ⟨-, root, -, rfl⟩ := canonicalize_eq_ok_iff.mp found
      have confined : ∃ candidate, confine fs (.to root) candidate = .ok path := by
        dsimp only at accepted
        split at accepted
        · split at accepted
          · cases accepted
          · exact ⟨_, accepted⟩
        · exact ⟨_, accepted⟩
      obtain ⟨candidate, confined⟩ := confined
      obtain ⟨-, location, -, under, file, rfl⟩ := confine_eq_ok_iff.mp confined
      exact ⟨root, location, rfl, under, file, rfl⟩
  · rintro ⟨root, location, found, under, file, rfl⟩
    refine ⟨.to location, ?_⟩
    have real : fs.Real location := ⟨_, file⟩
    unfold resolveEntrypoint
    rw [found]
    show (if ¬startsWith (.to location) packageRoot ∧ ¬startsWith (.to location) (.to root) then _ else _) = _
    rw [if_neg fun outside => outside.2 (startsWith_to.mpr under)]
    exact confine_eq_ok_iff.mpr ⟨nofun, location, real.canonicalize, under, file, rfl⟩

theorem join_names {names : List String} (named : names ≠ []) :
    join (.to root) ⟨false, names.map .name⟩ = .to (root ++ names) := by
  have present : names.map Part.name ≠ [] := by simpa using named
  simp [join, FilePath.to, present]

theorem resolveEntrypoint_names {names : List String} (named : names ≠ []) :
    resolveEntrypoint fs packageRoot ⟨false, names.map .name⟩ = .ok path ↔ packageRoot ≠ ⟨false, []⟩ ∧
      ∃ root location, fs.canonicalize packageRoot = .ok root ∧ fs.canonicalize (.to (root ++ names)) = .ok location ∧
        root <+: location ∧ fs.node location = some (.entry .file) ∧ path = .to location := by
  unfold resolveEntrypoint
  cases found : canonicalize fs packageRoot with
  | error error =>
    constructor
    · intro same
      cases same
    · rintro ⟨given, root, location, canonical, -⟩
      cases found.symm.trans (canonicalize_eq_ok_iff.mpr ⟨given, root, canonical, rfl⟩)
  | ok root =>
    obtain ⟨given, root, canonical, rfl⟩ := canonicalize_eq_ok_iff.mp found
    show confine fs (.to root) (join (.to root) _) = _ ↔ _
    rw [join_names named, confine_eq_ok_iff]
    constructor
    · rintro ⟨-, location, leads, under, file, rfl⟩
      exact ⟨given, root, location, canonical, leads, under, file, rfl⟩
    · rintro ⟨-, root', location, canonical', leads, under, file, rfl⟩
      cases canonical.symm.trans canonical'
      exact ⟨nofun, location, leads, under, file, rfl⟩

end Confinement

end RuntimeHost.Native

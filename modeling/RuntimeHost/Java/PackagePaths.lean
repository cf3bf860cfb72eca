import RuntimeHost.Java.NativeEngine
import RuntimeHost.Native.Entrypoint

namespace RuntimeHost.Java

open Foundation Native

/-- One step of `Path.normalize`, over the parts that are left so far, the last one first. -/
def normalizePart (absolute : Bool) : List Part → Part → List Part
  | kept, .current => kept
  | .name _ :: kept, .parent => kept
  | [], .parent => if absolute then [] else [.parent]
  | kept, part => part :: kept

def normalize (path : FilePath) : FilePath :=
  { path with parts := (path.parts.foldl (normalizePart path.absolute) []).reverse }

def resolve (base other : FilePath) : FilePath :=
  if other.absolute then other else { base with parts := base.parts ++ other.parts }

def startsWithNames (path base : FilePath) : Bool := path.absolute == base.absolute && base.parts.isPrefixOf path.parts

def fileSystemMessage (path : FilePath) : PathError → String
  | .notFound => path.text
  | .notADirectory => path.text ++ ": Not a directory"
  | .tooManyLinks => path.text ++ ": Too many levels of symbolic links"

variable (fs : FileSystem)

def toRealPath (path : FilePath) : Except Throwable FilePath :=
  match fs.canonicalize path with
  | .error error => .error (.ioException (fileSystemMessage path error))
  | .ok location => .ok (.to location)

/-- The place of a published file in the package, if there is one for the platform. -/
def publishedPath (platformId : String) : Option String → Except Throwable FilePath
  | none => .error (.runtimeException ("Unsupported Rust Runtime Host platform: " ++ platformId))
  | some filename => .ok ⟨false, [.name "native", .name platformId, .name filename]⟩

def nativeLibraryFile : String → Option String
  | "windows-x64" | "windows-arm64" => some "hmcl_rust_host_native.dll"
  | "linux-x64" | "linux-arm64" => some "libhmcl_rust_host_native.so"
  | "macos-x64" | "macos-arm64" => some "libhmcl_rust_host_native.dylib"
  | _ => none

def nativeLibraryPath (platformId : String) : Except Throwable FilePath :=
  publishedPath platformId (nativeLibraryFile platformId)

def processHostFile : String → Option String
  | "windows-x64" | "windows-arm64" => some "hmcl-rust-host-process.exe"
  | "linux-x64" | "linux-arm64" | "macos-x64" | "macos-arm64" => some "hmcl-rust-host-process"
  | _ => none

def processHostPath (platformId : String) : Except Throwable FilePath := publishedPath platformId (processHostFile platformId)

/-- The checks that `resolveNativeLibrary` and `resolveProcessHost` have in common. -/
def confineArtifact (subject : String) (canonicalRoot candidate : FilePath) : Except Throwable FilePath :=
  if ¬startsWithNames candidate canonicalRoot then
    .error (.ioException (subject ++ " path escapes package root: " ++ candidate.text))
  else
    match toRealPath fs candidate with
    | .error thrown => .error thrown
    | .ok canonical =>
      if ¬startsWithNames canonical canonicalRoot then
        .error (.ioException (subject ++ " symlink escapes package root: " ++ candidate.text))
      else if ¬isFile fs canonical then
        .error (.ioException (subject ++ " artifact is not a regular file: " ++ candidate.text))
      else .ok canonical

def resolveArtifact (subject : String) (relative : Except Throwable FilePath) (packageRoot : FilePath) :
    Except Throwable FilePath :=
  match toRealPath fs packageRoot with
  | .error thrown => .error thrown
  | .ok canonicalRoot =>
    match relative with
    | .error thrown => .error thrown
    | .ok relative => confineArtifact fs subject canonicalRoot (normalize (resolve canonicalRoot relative))

def resolveNativeLibrary (packageRoot : FilePath) (platformId : String) : Except Throwable FilePath :=
  resolveArtifact fs "Rust Host native" (nativeLibraryPath platformId) packageRoot

def resolveProcessHost (packageRoot : FilePath) (platformId : String) : Except Throwable FilePath :=
  resolveArtifact fs "Rust process Host" (processHostPath platformId) packageRoot

/-- What `RustRuntimeEngine.load` finds: the executable and the library, in that order. -/
def loadArtifacts (packageRoot : FilePath) (platformId : String) : Except Throwable (FilePath × FilePath) := do
  let processExecutable ← resolveProcessHost fs packageRoot platformId
  let library ← resolveNativeLibrary fs packageRoot platformId
  return (processExecutable, library)

/-- The entrypoint that `loadPayload` gives to the native library. -/
def payloadEntrypoint (packagePath entrypoint : FilePath) : FilePath := normalize (resolve packagePath entrypoint)

section Agreement

variable {fs} {packageRoot path executable library : FilePath} {root location : Location} {names names' : List String}
  {subject platformId : String} {filename : Option String}

theorem foldl_normalizePart_names (absolute : Bool) (kept : List Part) :
    (names.map Part.name).foldl (normalizePart absolute) kept = (names.map Part.name).reverse ++ kept := by
  induction names generalizing kept with
  | nil => rfl
  | cons name names ih =>
    have pushed : normalizePart absolute kept (.name name) = .name name :: kept := by
      cases kept with
      | nil => rfl
      | cons part kept => cases part <;> rfl
    rw [List.map_cons, List.foldl_cons, pushed, ih, List.reverse_cons, List.append_assoc]
    rfl

theorem normalize_names {absolute : Bool} : normalize ⟨absolute, names.map .name⟩ = ⟨absolute, names.map .name⟩ := by
  rw [normalize, foldl_normalizePart_names, List.append_nil, List.reverse_reverse]

theorem payloadEntrypoint_names : payloadEntrypoint (.to root) ⟨false, names.map .name⟩ = .to (root ++ names) := by
  show normalize ⟨true, root.map .name ++ names.map .name⟩ = _
  rw [← List.map_append, normalize_names]
  rfl

theorem startsWithNames_to : startsWithNames (.to location) (.to root) = true ↔ root <+: location := by
  have injective : Function.Injective Part.name := fun _ _ => Part.name.inj
  show (root.map Part.name).isPrefixOf (location.map Part.name) = true ↔ _
  rw [List.isPrefixOf_iff_prefix]
  exact List.prefix_map_iff_of_injective injective

theorem toRealPath_eq_ok_iff : toRealPath fs packageRoot = .ok path ↔
    ∃ location, fs.canonicalize packageRoot = .ok location ∧ path = .to location := by
  unfold toRealPath
  split
  · rename_i error failed
    constructor
    · intro same
      cases same
    · rintro ⟨location, canonical, -⟩
      cases failed.symm.trans canonical
  · rename_i location canonical
    constructor
    · intro same
      cases same
      exact ⟨location, canonical, rfl⟩
    · rintro ⟨location', canonical', rfl⟩
      cases canonical.symm.trans canonical'
      rfl

theorem confineArtifact_eq_ok_iff (under : root <+: names) : confineArtifact fs subject (.to root) (.to names) = .ok path ↔
    ∃ location, fs.canonicalize (.to names) = .ok location ∧ root <+: location ∧ fs.node location = some (.entry .file) ∧
      path = .to location := by
  unfold confineArtifact
  rw [if_neg (not_not.mpr (startsWithNames_to.mpr under))]
  cases found : toRealPath fs (.to names) with
  | error thrown =>
    constructor
    · intro same
      cases same
    · rintro ⟨location, canonical, -⟩
      cases found.symm.trans (toRealPath_eq_ok_iff.mpr ⟨location, canonical, rfl⟩)
  | ok canonicalPath =>
    obtain ⟨location, canonical, rfl⟩ := toRealPath_eq_ok_iff.mp found
    simp only [startsWithNames_to, isFile_to (FileSystem.real_of_canonicalize canonical)]
    constructor
    · intro accepted
      split at accepted
      · cases accepted
      · rename_i inside
        split at accepted
        · cases accepted
        · rename_i file
          cases accepted
          exact ⟨location, canonical, not_not.mp inside, not_not.mp file, rfl⟩
    · rintro ⟨location', canonical', inside, file, rfl⟩
      cases canonical.symm.trans canonical'
      rw [if_neg (not_not.mpr inside), if_neg (not_not.mpr file)]

theorem resolveArtifact_eq_ok_iff (given : packageRoot ≠ ⟨false, []⟩) :
    resolveArtifact fs subject (publishedPath platformId filename) packageRoot = .ok path ↔ ∃ name, filename = some name ∧
      resolveEntrypoint fs packageRoot ⟨false, ["native", platformId, name].map .name⟩ = .ok path := by
  simp only [resolveEntrypoint_names (List.cons_ne_nil _ _)]
  unfold resolveArtifact
  cases found : toRealPath fs packageRoot with
  | error thrown =>
    constructor
    · intro same
      cases same
    · rintro ⟨name, -, -, root, location, canonical, -⟩
      cases found.symm.trans (toRealPath_eq_ok_iff.mpr ⟨root, canonical, rfl⟩)
  | ok canonicalRoot =>
    obtain ⟨root, rooted, rfl⟩ := toRealPath_eq_ok_iff.mp found
    cases filename with
    | none =>
      constructor
      · intro same
        cases same
      · rintro ⟨name, same, -⟩
        cases same
    | some name =>
      show confineArtifact fs subject (.to root)
        (payloadEntrypoint (.to root) ⟨false, ["native", platformId, name].map .name⟩) = _ ↔ _
      rw [payloadEntrypoint_names, confineArtifact_eq_ok_iff (List.prefix_append ..)]
      constructor
      · rintro ⟨location, leads, inside, file, rfl⟩
        exact ⟨name, rfl, given, root, location, rooted, leads, inside, file, rfl⟩
      · rintro ⟨name', same, -, root', location, rooted', leads, inside, file, rfl⟩
        cases same
        cases rooted.symm.trans rooted'
        exact ⟨location, leads, inside, file, rfl⟩

/-- An engine is loaded exactly when both artifacts are published for the platform and pass the check of the Rust Host. -/
theorem loadArtifacts_eq_ok_iff (given : packageRoot ≠ ⟨false, []⟩) :
    loadArtifacts fs packageRoot platformId = .ok (executable, library) ↔
      ∃ executableFile libraryFile, processHostFile platformId = some executableFile ∧
        nativeLibraryFile platformId = some libraryFile ∧
        resolveEntrypoint fs packageRoot ⟨false, ["native", platformId, executableFile].map .name⟩ = .ok executable ∧
        resolveEntrypoint fs packageRoot ⟨false, ["native", platformId, libraryFile].map .name⟩ = .ok library := by
  have host : ∀ path, resolveProcessHost fs packageRoot platformId = .ok path ↔ _ := fun _ => resolveArtifact_eq_ok_iff given
  have native : ∀ path, resolveNativeLibrary fs packageRoot platformId = .ok path ↔ _ := fun _ =>
    resolveArtifact_eq_ok_iff given
  constructor
  · intro loaded
    unfold loadArtifacts at loaded
    cases found : resolveProcessHost fs packageRoot platformId with
    | error thrown =>
      rw [found] at loaded
      cases loaded
    | ok executable' =>
      rw [found] at loaded
      cases found' : resolveNativeLibrary fs packageRoot platformId with
      | error thrown =>
        rw [found'] at loaded
        cases loaded
      | ok library' =>
        rw [found'] at loaded
        cases loaded
        obtain ⟨executableFile, published, accepted⟩ := (host _).mp found
        obtain ⟨libraryFile, published', accepted'⟩ := (native _).mp found'
        exact ⟨executableFile, libraryFile, published, published', accepted, accepted'⟩
  · rintro ⟨executableFile, libraryFile, published, published', accepted, accepted'⟩
    unfold loadArtifacts
    rw [(host executable).mpr ⟨executableFile, published, accepted⟩, (native library).mpr ⟨libraryFile, published', accepted'⟩]
    rfl

/-- Where neither the package path nor the entrypoint, which is not empty, has dot parts, the entrypoint means the same file to
the embedded engine, which is given its absolute path, and to the process Host, which is given the entrypoint itself, but for
links that are too many along the whole path. -/
theorem modes_agree {packagePath : List String} (named : names ≠ []) :
    resolveEntrypoint fs (.to packagePath) (payloadEntrypoint (.to packagePath) ⟨false, names.map .name⟩) =
        resolveEntrypoint fs (.to packagePath) ⟨false, names.map .name⟩ ∨
      resolveEntrypoint fs (.to packagePath) (payloadEntrypoint (.to packagePath) ⟨false, names.map .name⟩) =
        .error (.io (ioError .tooManyLinks)) := by
  rw [payloadEntrypoint_names]
  unfold resolveEntrypoint
  cases found : canonicalize fs (.to packagePath) with
  | error error => exact .inl rfl
  | ok canonicalRoot =>
    obtain ⟨-, root, canonical, rfl⟩ := canonicalize_eq_ok_iff.mp found
    have under : startsWith (.to (packagePath ++ names)) (.to packagePath) = true := startsWith_to.mpr (List.prefix_append ..)
    show (if ¬startsWith (.to (packagePath ++ names)) (.to packagePath) ∧ _ then _ else
        confine fs (.to root) (.to (packagePath ++ names))) = confine fs (.to root) (join (.to root) _) ∨
      (if ¬startsWith (.to (packagePath ++ names)) (.to packagePath) ∧ _ then _ else
        confine fs (.to root) (.to (packagePath ++ names))) = _
    rw [if_neg fun outside => outside.1 under, join_names named]
    obtain ⟨links, few, leads⟩ := FileSystem.canonicalize_eq_ok_iff.mp canonical
    have real : fs.Real root := FileSystem.real_of_canonicalize canonical
    have whole := leads.canonicalize_append few names
    have half := real.leads.canonicalize_append (Nat.zero_le _) names
    have fewer := fs.walk_fewer (fs.maxLinks - links) links root (names.map .name)
    rw [Nat.sub_add_cancel few, ← whole, ← Nat.sub_zero fs.maxLinks, ← half] at fewer
    unfold confine
    rw [canonicalize_to_eq, canonicalize_to_eq]
    rcases fewer with same | exhausted
    · rw [same]
      exact .inl rfl
    · rw [exhausted]
      exact .inr rfl

end Agreement

section Packages

/-- A package with a link into one of its own directories, which has a library of the same name as its parent. -/
def linkedPackage : FileSystem := .ofEntries
  [([], .entry .directory), (["p"], .entry .directory), (["p", "a.so"], .entry .file), (["p", "d"], .entry .directory),
    (["p", "d", "a.so"], .entry .file), (["p", "d", "e"], .entry .directory), (["p", "d", "e", "a.so"], .entry .file),
    (["p", "l"], .link ⟨true, [.name "p", .name "d", .name "e"]⟩)] 40 [] (by decide) (by decide) (by decide)

theorem modes_agree_linked : resolveEntrypoint linkedPackage (.to ["p"]) ⟨false, ["l", "a.so"].map .name⟩ =
    .ok (.to ["p", "d", "e", "a.so"]) ∧ resolveEntrypoint linkedPackage (.to ["p"])
      (payloadEntrypoint (.to ["p"]) ⟨false, ["l", "a.so"].map .name⟩) = .ok (.to ["p", "d", "e", "a.so"]) := by
  have accepted : resolveEntrypoint linkedPackage (.to ["p"]) ⟨false, ["l", "a.so"].map .name⟩ =
      .ok (.to ["p", "d", "e", "a.so"]) := by decide
  have agree : resolveEntrypoint linkedPackage (.to ["p"]) (payloadEntrypoint (.to ["p"]) ⟨false, ["l", "a.so"].map .name⟩) =
      _ ∨ _ := modes_agree (List.cons_ne_nil "l" ["a.so"])
  refine ⟨accepted, ?_⟩
  rcases agree with same | exhausted
  · exact same.trans accepted
  · exact absurd exhausted (by decide)

example : resolveEntrypoint linkedPackage (.to ["p"]) ⟨false, [.name "l", .parent, .name "a.so"]⟩ =
    .ok (.to ["p", "d", "a.so"]) ∧ resolveEntrypoint linkedPackage (.to ["p"])
      (payloadEntrypoint (.to ["p"]) ⟨false, [.name "l", .parent, .name "a.so"]⟩) = .ok (.to ["p", "a.so"]) := by decide

def linuxPackage : FileSystem := .ofEntries
  [([], .entry .directory), (["p"], .entry .directory), (["p", "native"], .entry .directory),
    (["p", "native", "linux-x64"], .entry .directory),
    (["p", "native", "linux-x64", "hmcl-rust-host-process"], .entry .file),
    (["p", "native", "linux-x64", "libhmcl_rust_host_native.so"], .entry .file)] 40 [] (by decide) (by decide) (by decide)

theorem loadArtifacts_linux : loadArtifacts linuxPackage (.to ["p"]) "linux-x64" =
    .ok (.to ["p", "native", "linux-x64", "hmcl-rust-host-process"],
      .to ["p", "native", "linux-x64", "libhmcl_rust_host_native.so"]) :=
  (loadArtifacts_eq_ok_iff (by decide)).mpr
    ⟨"hmcl-rust-host-process", "libhmcl_rust_host_native.so", rfl, rfl, by decide, by decide⟩

end Packages

end RuntimeHost.Java

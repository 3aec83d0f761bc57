import RoundTrip.Format.Findings
import RoundTrip.Settings
import RoundTrip.Suite

/-!
# The JSON forms of settings and suites

Settings and recipes may leave out any field. A version list is read as it is written, without the
check that `VersionList.ofList` makes.
-/

namespace RoundTrip

open Json (record)

/-- Reads a field that may be left out. -/
def readOr {α : Type} (default : α) (read : Json → Option α) : Option Json → Option α
  | none => some default
  | some j => read j

namespace Recipe

/-- The form of the command of a stage. -/
def commandJson : Option (List String) → Json
  | none => .null
  | some words => .texts words

/-- Reads the command of a stage. -/
def readCommand? : Json → Option (Option (List String))
  | .null => some none
  | j => j.texts?.map some

/-- The form of a recipe. -/
def toJson (r : Recipe) : Json :=
  record [("compile", commandJson r.compile), ("regenerate", commandJson r.regenerate)]

/-- Reads a recipe. -/
def ofJson? (j : Json) : Option Recipe := do
  match ← j.fields? .short ["compile", "regenerate"] with
  | [compile, regenerate] =>
    some ⟨← readOr none readCommand? compile, ← readOr none readCommand? regenerate⟩
  | _ => none

end Recipe

namespace Settings

/-- The names of the fields of settings. -/
def fieldNames : List String :=
  ["verbose", "tool_timeout_secs", "cache_root", "tool_dirs", "assembler_flags",
    "interpreter_flags", "corpus"]

/-- The form of settings. -/
def toJson? (s : Settings) : Option Json := do
  some (record [("verbose", .bool s.verbose), ("tool_timeout_secs", countJson s.timeoutSecs.toNat),
    ("cache_root", ← s.cacheRoot.toJson?), ("tool_dirs", .list (← s.toolDirs.mapM Path.toJson?)),
    ("assembler_flags", .texts s.assemblerFlags),
    ("interpreter_flags", .texts s.interpreterFlags), ("corpus", s.recipe.toJson)])

/-- Reads settings; a field that is left out has its default. -/
def ofJson? (j : Json) : Option Settings := do
  let base : Settings := {}
  match ← j.fields? .short fieldNames with
  | [verbose, timeoutSecs, cacheRoot, toolDirs, assemblerFlags, interpreterFlags, recipe] =>
    some {
      verbose := ← readOr base.verbose Json.bool? verbose
      timeoutSecs := ← readOr base.timeoutSecs Json.uint64? timeoutSecs
      cacheRoot := ← readOr base.cacheRoot Path.ofJson? cacheRoot
      toolDirs := ← readOr base.toolDirs (Json.listOf? Path.ofJson?) toolDirs
      assemblerFlags := ← readOr base.assemblerFlags Json.texts? assemblerFlags
      interpreterFlags := ← readOr base.interpreterFlags Json.texts? interpreterFlags
      recipe := ← readOr base.recipe Recipe.ofJson? recipe }
  | _ => none

end Settings

namespace Suite

/-- The form of a suite. -/
def toJson? (s : Suite) : Option Json := do
  some (record [("compile_target", .str s.target), ("generator_id", .str s.generator),
    ("cache_dir", ← s.cacheDir.toJson?)])

/-- Reads a suite. -/
def ofJson? (j : Json) : Option Suite := do
  match ← j.fields? .full ["compile_target", "generator_id", "cache_dir"] with
  | [some target, some generator, some cacheDir] =>
    some ⟨← target.text?, ← generator.text?, ← Path.ofJson? cacheDir⟩
  | _ => none

end Suite

namespace VersionList

/-- The form of a version list. -/
def toJson (v : VersionList) : Json := record [("versions", .texts v.versions)]

/-- Reads a version list. -/
def ofJson? (j : Json) : Option VersionList := do
  match ← j.fields? .full ["versions"] with
  | [some versions] => some ⟨← versions.texts?⟩
  | _ => none

end VersionList

namespace Generation

/-- The form of a generation. -/
def toJson (g : Generation) : Json := .str g.name

/-- Reads a generation. -/
def ofJson? (j : Json) : Option Generation := do
  let name ← j.bareChoice?
  all.find? (·.name == name)

end Generation

end RoundTrip

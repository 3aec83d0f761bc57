import RoundTrip.Format.Settings
import RoundTrip.Proofs.Format.Records

/-!
# The forms of settings and suites are read back

Settings are written with all their fields, so no default is ever taken when they are read back. A
command that is missing is written as `null` and one without words as an empty list, and the two
are told apart again.
-/

namespace RoundTrip

open Json (record Faithful)

namespace Recipe

/-- The command of a stage is read back. -/
@[simp] theorem readCommand?_commandJson (command : Option (List String)) :
    readCommand? (commandJson command) = some command := by
  cases command with
  | none => rfl
  | some words =>
    rw [commandJson, readCommand?, Json.texts?_texts, Option.map_some]
    rintro ⟨⟩

/-- The form of the command of a stage is regular. -/
@[simp] theorem isRegular_commandJson (command : Option (List String)) :
    (commandJson command).isRegular = true := by
  cases command <;> simp [commandJson]

/-- The form of a recipe is regular. -/
@[simp] theorem isRegular_toJson (r : Recipe) : r.toJson.isRegular = true := by
  simp [toJson]

/-- A recipe is read back. -/
@[simp] theorem ofJson?_toJson (r : Recipe) : ofJson? r.toJson = some r := by
  have hfields : r.toJson.fields? .short ["compile", "regenerate"] =
      some [some (commandJson r.compile), some (commandJson r.regenerate)] :=
    Json.fields?_record _ [_, _] (by simp)
  simp [ofJson?, hfields, readOr]

end Recipe

namespace Settings

/-- The paths in settings. -/
def paths (s : Settings) : List Path := s.cacheRoot :: s.toolDirs

/-- The form of settings is faithful. -/
theorem faithful (s : Settings) : Faithful s.toJson? s.paths ofJson? s := by
  have hpaths : s.paths = [s.cacheRoot] ++ (s.toolDirs.flatMap (fun p => [p]) ++ []) := by
    simp [paths, List.flatMap_singleton']
  rw [hpaths]
  refine (Json.faithful_path s.cacheRoot).bind fun cacheRoot hcacheRoot hreadCacheRoot =>
    .bindList (fun p _ => Json.faithful_path p) fun toolDirs htoolDirs hreadToolDirs =>
      .intro (by simp [hcacheRoot, htoolDirs, countJson]) ?_
  have hfields : (record [("verbose", .bool s.verbose),
      ("tool_timeout_secs", countJson s.timeoutSecs.toNat), ("cache_root", cacheRoot),
      ("tool_dirs", .list toolDirs), ("assembler_flags", .texts s.assemblerFlags),
      ("interpreter_flags", .texts s.interpreterFlags), ("corpus", s.recipe.toJson)]).fields?
      .short fieldNames =
      some [some (.bool s.verbose), some (countJson s.timeoutSecs.toNat), some cacheRoot,
        some (.list toolDirs), some (.texts s.assemblerFlags), some (.texts s.interpreterFlags),
        some s.recipe.toJson] :=
    Json.fields?_record _ [_, _, _, _, _, _, _] (by simp)
  -- proved by rewriting, since the bound of a 64-bit integer must not be computed
  simp -implicitDefEqProofs [ofJson?, hfields, readOr, hreadCacheRoot, hreadToolDirs, Json.bool?]

end Settings

namespace Suite

/-- The form of a suite is faithful. -/
theorem faithful (s : Suite) : Faithful s.toJson? [s.cacheDir] ofJson? s := by
  refine (Json.faithful_path s.cacheDir).bind fun cacheDir hcacheDir hreadCacheDir =>
    .intro (by simp [hcacheDir]) ?_
  have hfields : (record [("compile_target", .str s.target), ("generator_id", .str s.generator),
      ("cache_dir", cacheDir)]).fields? .full ["compile_target", "generator_id", "cache_dir"] =
      some [some (.str s.target), some (.str s.generator), some cacheDir] :=
    Json.fields?_record _ [_, _, _] (by simp)
  simp [ofJson?, hfields, hreadCacheDir, Json.text?]

end Suite

/-- The form of a version list is faithful. -/
theorem VersionList.faithful (v : VersionList) : Faithful (some v.toJson) [] ofJson? v := by
  have hfields : v.toJson.fields? .full ["versions"] = some [some (.texts v.versions)] :=
    Json.fields?_record _ [_] (by simp)
  exact .intro (by simp [toJson]) (by simp [ofJson?, hfields])

end RoundTrip

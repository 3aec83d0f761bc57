import RoundTrip.Proofs.Format.Settings

/-!
# Settings of which some fields are given

A settings file may give some fields and leave out others, in any order and between members that
are no fields. `Settings.Given` is what it gives, `Settings.Given.IsGivenBy` says so of the members
of its object, and `Settings.Given.filled` are the settings with a default in the place of each
field that is left out. These are the settings that are read (`Settings.Given.ofJson?_record`).

A recipe is given in the same way inside of the settings, and what a field of it leaves out has a
default as well, whether or not there is a recipe at all.
-/

namespace RoundTrip

open Json (record)

namespace Json

/-- The values of the members of an object under a name, in their order. -/
def valuesOf (members : List (String × Json)) (name : String) : List Json :=
  (members.filter (·.1 == name)).map Prod.snd

/-- The members of an object leave out a field, or give it once, with a value of some form. -/
inductive Gives {α : Type} (form : α → Json → Prop) (members : List (String × Json))
    (name : String) : Option α → Prop
  | absent : valuesOf members name = [] → Gives form members name none
  | present {x : α} {j : Json} : valuesOf members name = [j] → form x j →
      Gives form members name (some x)

/-- What is found under a name is the first of the values under it. -/
theorem lookup_eq_head? (members : List (String × Json)) (name : String) :
    members.lookup name = (valuesOf members name).head? := by
  induction members with
  | nil => rfl
  | cons m members ih =>
    rw [valuesOf, List.lookup_cons, List.filter_cons, BEq.comm, ih]
    cases m.1 == name <;> rfl

namespace Gives

variable {α β : Type} {form : α → Json → Prop} {members : List (String × Json)} {name : String}
  {x : Option α}

/-- A field that is given is given once. -/
theorem length_le (h : Gives form members name x) :
    (members.filter (·.1 == name)).length ≤ 1 := by
  have hlength : (valuesOf members name).length ≤ 1 := by
    cases h with
    | absent h => simp [h]
    | present h => simp [h]
  rwa [valuesOf, List.length_map] at hlength

/-- A field that may be left out is read as what is given, or as its default. -/
theorem readOr_lookup (h : Gives form members name x) (read : Json → Option β) (value : α → β)
    (hread : ∀ x j, form x j → read j = some (value x)) (default : β) :
    readOr default read (members.lookup name) = some ((x.map value).getD default) := by
  rw [lookup_eq_head?]
  cases h with
  | absent h =>
    rw [h]
    rfl
  | present h hform =>
    rw [h]
    exact hread _ _ hform

end Gives

end Json

namespace Recipe

/-- The fields of a recipe that are given. -/
structure Given where
  /-- The command that compiles, which may be given as none. -/
  compile : Option (Option (List String)) := none
  /-- The command that regenerates, which may be given as none. -/
  regenerate : Option (Option (List String)) := none

namespace Given

/-- The members of an object give the fields of a recipe, and may give anything else. -/
structure IsGivenBy (g : Given) (members : List (String × Json)) : Prop where
  compile : Json.Gives (fun command j => j = commandJson command) members "compile" g.compile
  regenerate :
    Json.Gives (fun command j => j = commandJson command) members "regenerate" g.regenerate

/-- The recipe with its defaults: a stage of which nothing is said has no command. -/
def filled (g : Given) : Recipe where
  compile := g.compile.getD none
  regenerate := g.regenerate.getD none

/-- What is read of a recipe is what is given of it, and its defaults. -/
theorem ofJson?_record {g : Given} {members : List (String × Json)} (h : g.IsGivenBy members) :
    ofJson? (record members) = some g.filled := by
  have hfields : (record members).fields? .short ["compile", "regenerate"] =
      some [members.lookup "compile", members.lookup "regenerate"] :=
    Json.fields?_of_unique _ (by simp [h.compile.length_le, h.regenerate.length_le])
  have hread : ∀ (command : Option (List String)) (j : Json), j = commandJson command →
      readCommand? j = some (id command) := by
    rintro command _ rfl
    exact readCommand?_commandJson command
  have hcompile := h.compile.readOr_lookup readCommand? id hread none
  have hregenerate := h.regenerate.readOr_lookup readCommand? id hread none
  simp [ofJson?, hfields, hcompile, hregenerate, filled]

end Given

end Recipe

namespace Settings

/-- The fields of settings that are given. -/
structure Given where
  /-- Whether the output of every tool is shown. -/
  verbose : Option Bool := none
  /-- After how many seconds a tool is killed; 0 for never. -/
  timeoutSecs : Option UInt64 := none
  /-- The directory that the directories of suites lie in. -/
  cacheRoot : Option String := none
  /-- The directories that tools are looked for in. -/
  toolDirs : Option (List String) := none
  /-- The arguments of the assembler. -/
  assemblerFlags : Option (List String) := none
  /-- The arguments of the interpreter. -/
  interpreterFlags : Option (List String) := none
  /-- The commands that prepare a corpus. -/
  recipe : Option Recipe.Given := none

namespace Given

/-- The members of an object give the fields of settings, and may give anything else. -/
structure IsGivenBy (g : Given) (members : List (String × Json)) : Prop where
  verbose : Json.Gives (fun b j => j = .bool b) members "verbose" g.verbose
  timeoutSecs : Json.Gives (fun (n : UInt64) j => j = .int n.toNat) members "tool_timeout_secs"
    g.timeoutSecs
  cacheRoot : Json.Gives (fun text j => j = .str text) members "cache_root" g.cacheRoot
  toolDirs : Json.Gives (fun dirs j => j = .texts dirs) members "tool_dirs" g.toolDirs
  assemblerFlags : Json.Gives (fun flags j => j = .texts flags) members "assembler_flags"
    g.assemblerFlags
  interpreterFlags : Json.Gives (fun flags j => j = .texts flags) members "interpreter_flags"
    g.interpreterFlags
  recipe : Json.Gives (fun recipe j => ∃ inner, j = record inner ∧ recipe.IsGivenBy inner) members
    "corpus" g.recipe

/-- The settings with their defaults. -/
def filled (g : Given) : Settings where
  verbose := g.verbose.getD false
  timeoutSecs := g.timeoutSecs.getD 0
  cacheRoot := (g.cacheRoot.map Path.ofText).getD (.ofText "tests/cache")
  toolDirs := (g.toolDirs.map fun dirs => dirs.map Path.ofText).getD []
  assemblerFlags := g.assemblerFlags.getD []
  interpreterFlags := g.interpreterFlags.getD []
  recipe := (g.recipe.map Recipe.Given.filled).getD {}

/-- A list of texts is read as the paths with these texts. -/
theorem listOf?_texts (dirs : List String) :
    (Json.texts dirs).listOf? Path.ofJson? = some (dirs.map Path.ofText) := by
  rw [Json.texts, Json.listOf?, Json.list?, Option.bind_some, List.mapM_map]
  exact List.mapM_pure

/-- What is read of settings is what is given of them, and their defaults. -/
theorem ofJson?_record {g : Given} {members : List (String × Json)} (h : g.IsGivenBy members) :
    ofJson? (record members) = some g.filled := by
  have hfields : (record members).fields? .short fieldNames =
      some [members.lookup "verbose", members.lookup "tool_timeout_secs",
        members.lookup "cache_root", members.lookup "tool_dirs", members.lookup "assembler_flags",
        members.lookup "interpreter_flags", members.lookup "corpus"] :=
    Json.fields?_of_unique _ (by
      simp [fieldNames, h.verbose.length_le, h.timeoutSecs.length_le, h.cacheRoot.length_le,
        h.toolDirs.length_le, h.assemblerFlags.length_le, h.interpreterFlags.length_le,
        h.recipe.length_le])
  have hverbose := h.verbose.readOr_lookup Json.bool? id (by rintro b _ rfl; rfl) false
  have htimeoutSecs := h.timeoutSecs.readOr_lookup Json.uint64? id
    (by rintro n _ rfl; exact Json.uint64?_countJson n) 0
  have hcacheRoot := h.cacheRoot.readOr_lookup Path.ofJson? Path.ofText (by rintro text _ rfl; rfl)
    (.ofText "tests/cache")
  have htoolDirs := h.toolDirs.readOr_lookup (Json.listOf? Path.ofJson?) (·.map Path.ofText)
    (by rintro dirs _ rfl; exact listOf?_texts dirs) []
  have hflags : ∀ (flags : List String) (j : Json), j = .texts flags →
      j.texts? = some (id flags) := by
    rintro flags _ rfl
    exact Json.texts?_texts flags
  have hassemblerFlags := h.assemblerFlags.readOr_lookup Json.texts? id hflags []
  have hinterpreterFlags := h.interpreterFlags.readOr_lookup Json.texts? id hflags []
  have hrecipe := h.recipe.readOr_lookup Recipe.ofJson? Recipe.Given.filled
    (by rintro recipe _ ⟨inner, rfl, hinner⟩; exact Recipe.Given.ofJson?_record hinner) {}
  -- proved by rewriting, since the bound of a 64-bit integer must not be computed
  simp -implicitDefEqProofs [ofJson?, hfields, hverbose, htimeoutSecs, hcacheRoot, htoolDirs,
    hassemblerFlags, hinterpreterFlags, hrecipe, filled]

end Given

end Settings

end RoundTrip

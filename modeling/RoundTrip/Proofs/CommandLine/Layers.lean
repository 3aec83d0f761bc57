import RoundTrip.Proofs.CommandLine.Arguments
import RoundTrip.Proofs.Format.Given

/-!
# The layers of settings

Settings come from three layers: what the options say goes before what the settings file gives, and
that before the defaults (`Options.Layers`). A file is checked with its defaults before the options
are looked at. The options can mend nothing that the check finds in the file, and they break
nothing either, since the only one of them that the check looks at is the cache root, which is a
path that is not empty (`CommandLine.readRequest_named`). So there are settings just if the file
passes the check (`Options.settings_layered`).
-/

namespace RoundTrip

/-- What is loaded from a file that gives some fields: the settings with their defaults, if these
can work. -/
theorem Settings.load_of_given {files : FileTree} {path : Path} {text : String}
    {members : List (String × Json)} {g : Settings.Given} (hread : files.readText path = .ok text)
    (htext : (Json.record members).HasText text) (hgiven : g.IsGivenBy members) :
    Settings.load files path = g.filled.check.map fun _ => g.filled := by
  rw [load, hread]
  simp only [Json.ofText?_of_hasText htext, Option.bind_some, Given.ofJson?_record hgiven]
  cases g.filled.check <;> rfl

namespace Options

/-- In each field of settings, what the options say goes before what a settings file gives, and that
before the default. The flags and the commands come from the file alone. -/
structure Layers (o : Options) (g : Settings.Given) (s : Settings) : Prop where
  verbose : s.verbose = (o.verbose || g.verbose.getD false)
  timeoutSecs : s.timeoutSecs = (o.timeoutSecs.or g.timeoutSecs).getD 0
  timeout : o.timeoutSecs = some 0 → s.timeout? = none
  cacheRoot : s.cacheRoot = (o.cacheDir.or (g.cacheRoot.map .ofText)).getD (.ofText "tests/cache")
  toolDirs : s.toolDirs =
    if o.toolDirs = [] then (g.toolDirs.getD []).map .ofText else o.toolDirs
  assemblerFlags : s.assemblerFlags = g.assemblerFlags.getD []
  interpreterFlags : s.interpreterFlags = g.interpreterFlags.getD []
  compile : s.recipe.compile = (g.recipe.bind (·.compile)).getD none
  regenerate : s.recipe.regenerate = (g.recipe.bind (·.regenerate)).getD none

/-- The settings of a file with its defaults, with what the options say in their place. -/
theorem layers_adjust (o : Options) (g : Settings.Given) : o.Layers g (o.adjust g.filled) where
  verbose := Bool.or_comm ..
  timeoutSecs := by
    rw [adjust, Settings.Given.filled]
    cases o.timeoutSecs <;> rfl
  timeout h := by
    rw [adjust, h]
    rfl
  cacheRoot := by
    rw [adjust, Settings.Given.filled]
    cases o.cacheDir <;> rfl
  toolDirs := by
    rw [adjust, Settings.Given.filled]
    cases o.toolDirs <;> cases g.toolDirs <;> rfl
  assemblerFlags := rfl
  interpreterFlags := rfl
  compile := by
    rw [adjust, Settings.Given.filled]
    cases g.recipe <;> rfl
  regenerate := by
    rw [adjust, Settings.Given.filled]
    cases g.recipe <;> rfl

/-- What the options say leaves settings that can work such. -/
theorem valid_adjust {o : Options} {s : Settings} (h : s.Valid)
    (hcacheDir : ∀ dir ∈ o.cacheDir, dir.isEmpty = false) : (o.adjust s).Valid where
  commands := h.commands
  cacheRoot := by
    rw [adjust]
    cases hdir : o.cacheDir with
    | none => exact h.cacheRoot
    | some dir => exact hcacheDir dir hdir

/-- What the settings of a request with a settings file are: those of the file with its defaults, if
these can work, with what the options say in their place. -/
theorem settings_of_given {o : Options} {files : FileTree} {path : Path} {text : String}
    {members : List (String × Json)} {g : Settings.Given}
    (hcacheDir : ∀ dir ∈ o.cacheDir, dir.isEmpty = false) (hconfig : o.config = some path)
    (hread : files.readText path = .ok text) (htext : (Json.record members).HasText text)
    (hgiven : g.IsGivenBy members) :
    o.settings files =
      (g.filled.check.mapError (Problem.settingsUnusable path)).map fun _ => o.adjust g.filled := by
  simp only [settings, hconfig, Settings.load_of_given hread htext hgiven]
  cases hcheck : g.filled.check with
  | error f => rfl
  | ok =>
    have hvalid := valid_adjust (g.filled.check_eq_ok_iff.1 hcheck) hcacheDir
    have hadjusted := (o.adjust g.filled).check_eq_ok_iff.2 hvalid
    refine bind_eq_ok_iff.2 ⟨g.filled, rfl, bind_eq_ok_iff.2 ⟨(), ?_, rfl⟩⟩
    rw [hadjusted]
    rfl

/-- The settings of every request pass the check, and no path that its options name is empty. If
its settings file holds the text of an object that gives some fields of settings, well formed and
each at most once, among anything else, then there are settings just if the file with its defaults
passes the check, and what the check finds otherwise is told of the file. In the settings, what the
options say goes before what the file gives, and that before the defaults. -/
theorem settings_layered :
    (∀ (o : Options) files s, o.settings files = .ok s → s.check = .ok ()) ∧
    (∀ args fromEnv r, CommandLine.readRequest args fromEnv = .ok r → r.options.Named) ∧
    ∀ (o : Options) (files : FileTree) path text members (g : Settings.Given), o.Named →
      o.config = some path → files.readText path = .ok text →
      (Json.record members).HasText text → g.IsGivenBy members →
      ((∃ s, o.settings files = .ok s) ↔ g.filled.check = .ok ()) ∧
      (∀ f, g.filled.check = .error f → o.settings files = .error (.settingsUnusable path f)) ∧
      ∀ s, o.settings files = .ok s → o.Layers g s := by
  refine ⟨fun o files s h => ?_, fun args fromEnv r => CommandLine.readRequest_named,
    fun o files path text members g hnamed hconfig hread htext hgiven => ?_⟩
  · obtain ⟨base, -, -, hvalid⟩ := settings_eq_ok_iff.1 h
    exact s.check_eq_ok_iff.2 hvalid
  · rw [settings_of_given hnamed.cacheDir hconfig hread htext hgiven]
    cases g.filled.check with
    | error f =>
      refine ⟨⟨nofun, nofun⟩, ?_, nofun⟩
      rintro _ ⟨⟩
      rfl
    | ok =>
      refine ⟨⟨fun _ => rfl, fun _ => ⟨_, rfl⟩⟩, nofun, ?_⟩
      rintro _ ⟨⟩
      exact o.layers_adjust g

/-- Members that give some fields of settings, among others. -/
def sampleMembers : List (String × Json) :=
  [("corpus", .record [("note", .null), ("regenerate", .texts ["gen"])]), ("extra", .list []),
    ("tool_timeout_secs", .int 30), ("tool_dirs", .texts ["u"])]

/-- The fields that they give. -/
def sampleGiven : Settings.Given where
  timeoutSecs := some 30
  toolDirs := some ["u"]
  recipe := some { regenerate := some (some ["gen"]) }

theorem isGivenBy_sample : sampleGiven.IsGivenBy sampleMembers where
  verbose := .absent rfl
  timeoutSecs := .present rfl rfl
  cacheRoot := .absent rfl
  toolDirs := .present rfl rfl
  assemblerFlags := .absent rfl
  interpreterFlags := .absent rfl
  recipe := .present rfl ⟨_, rfl, .absent rfl, .present rfl rfl⟩

/-- Options that say something else. -/
def sampleOptions : Options where
  config := some (.ofText "s.json")
  toolDirs := [.ofText "t"]
  timeoutSecs := some 0

/-- A settings file with these members, and one with an empty cache root. -/
def sampleFiles : FileTree where
  root := .dir [
    (Utf8.encode "s.json", .file (Utf8.encode (Json.record sampleMembers).pretty) 0),
    (Utf8.encode "e.json", .file (Utf8.encode (Json.record [("cache_root", .str "")]).pretty) 0)]

/-- The text of a settings file is what was written to it. -/
theorem readText_of_read {files : FileTree} {path : Path} {text : String}
    (h : files.read path = .ok (Utf8.encode text)) : files.readText path = .ok text := by
  rw [FileTree.readText, h]
  simp [bind, Except.bind]

/-- Options switch off the watchdog of a settings file and replace its directory of tools, and its
command stays. No option mends a cache root that is empty in the file. -/
theorem settings_layered_sample :
    CommandLine.readRequest (["--config", "s.json", "--timeout-secs", "0", "--tool-dir", "t",
      "suites"].map Utf8.encode) none = .ok ⟨sampleOptions, .list none⟩ ∧
    sampleOptions.settings sampleFiles =
      .ok { toolDirs := [.ofText "t"], recipe := ⟨none, some ["gen"]⟩ } ∧
    ({ config := some (.ofText "e.json"), cacheDir := some (.ofText "c") } : Options).settings
      sampleFiles =
        .error (.settingsUnusable (.ofText "e.json") (.invalidSettings .emptyCacheRoot)) := by
  obtain ⟨-, hnamed, hlayered⟩ := settings_layered
  have hrequest : CommandLine.readRequest (["--config", "s.json", "--timeout-secs", "0",
      "--tool-dir", "t", "suites"].map Utf8.encode) none = .ok ⟨sampleOptions, .list none⟩ :=
    CommandLine.readRequest_eq_ok (by decide +kernel)
  refine ⟨hrequest, ?_, ?_⟩
  · obtain ⟨hiff, -, hlayers⟩ := hlayered sampleOptions sampleFiles _ _ _ _
      (hnamed _ _ _ hrequest) rfl (readText_of_read rfl)
      (Json.hasText_toText .indented (by simp [sampleMembers, Json.isRegular_list]))
      isGivenBy_sample
    obtain ⟨⟨_, _, _, _, _, _, _, _⟩, hs⟩ := hiff.2 (by decide +kernel)
    obtain ⟨rfl, rfl, -, rfl, rfl, rfl, rfl, rfl, rfl⟩ := hlayers _ hs
    exact hs
  · have hpaths : ({ config := some (.ofText "e.json"), cacheDir := some (.ofText "c") } :
        Options).Named := by
      refine ⟨?_, ?_, nofun, nofun⟩
      all_goals
        rintro _ ⟨⟩
        decide +kernel
    have hgiven : ({ cacheRoot := some "" } : Settings.Given).IsGivenBy [("cache_root", .str "")] :=
      { verbose := .absent rfl
        timeoutSecs := .absent rfl
        cacheRoot := .present rfl rfl
        toolDirs := .absent rfl
        assemblerFlags := .absent rfl
        interpreterFlags := .absent rfl
        recipe := .absent rfl }
    obtain ⟨-, herror, -⟩ := hlayered _ sampleFiles _ _ _ _ hpaths rfl (readText_of_read rfl)
      (Json.hasText_toText .indented (by simp)) hgiven
    exact herror _ (by decide +kernel)

end Options

end RoundTrip

import Mathlib.Data.List.Forall2
import RoundTrip.CommandLine.Execution

/-!
# What a request asks for

Before a request starts or writes anything, its settings and its plan are made, and either may be
refused. The settings are those of the settings file, or the default ones, with what the options say
in their place, and all that can be wrong with them is checked (`Options.settings_eq_ok_iff`). A
plan names suites of the table, each as often as the user names it, or the one directory that is to
be verified (`Request.plan?_eq_ok_iff`).
-/

namespace RoundTrip

variable {ε α β : Type}

/-- What goes on with the value of an attempt succeeds just if the attempt does, and what goes on
with its value. -/
theorem bind_eq_ok_iff {first : Except ε α} {next : α → Except ε β} {y : β} :
    (first >>= next) = .ok y ↔ ∃ x, first = .ok x ∧ next x = .ok y := by
  cases first <;> simp [bind, Except.bind]

/-- An attempt whose failure is told in another way succeeds just if it does. -/
theorem mapError_eq_ok_iff {ε' : Type} {first : Except ε α} {tell : ε → ε'} {x : α} :
    first.mapError tell = .ok x ↔ first = .ok x := by
  cases first with
  | error => exact ⟨fun h => (nomatch h), fun h => (nomatch h)⟩
  | ok y =>
    exact ⟨fun h => congrArg _ (Except.ok.inj h), fun h => congrArg _ (Except.ok.inj h)⟩

/-- An attempt whose value is changed succeeds just if it does. -/
theorem map_eq_ok_iff {first : Except ε α} {change : α → β} {y : β} :
    first.map change = .ok y ↔ ∃ x, first = .ok x ∧ change x = y := by
  cases first with
  | error => exact ⟨fun h => (nomatch h), fun h => (nomatch h)⟩
  | ok x => simp [Except.map]

/-- What is refused without a condition succeeds just on this condition. -/
theorem guarded_eq_ok_iff {c : Prop} [Decidable c] {x y : α} {e : ε} :
    (if c then .ok x else .error e : Except ε α) = .ok y ↔ c ∧ x = y := by
  split <;> simp_all

/-- Attempts that are made one after the other succeed just if each of them does. -/
theorem mapM_eq_ok_iff {attempt : α → Except ε β} {R : β → α → Prop} {xs : List α} {ys : List β}
    (h : ∀ x y, attempt x = .ok y ↔ R y x) : xs.mapM attempt = .ok ys ↔ List.Forall₂ R ys xs := by
  induction xs generalizing ys with
  | nil => cases ys <;> simp [pure, Except.pure]
  | cons x xs ih =>
    rw [List.mapM_cons, List.forall₂_cons_right_iff, bind_eq_ok_iff]
    refine exists_congr fun y => ?_
    simp only [bind_eq_ok_iff, h, ih, exists_and_left, pure, Except.pure, Except.ok.injEq]
    exact and_congr_right fun _ => exists_congr fun _ => and_congr_right fun _ => eq_comm

/-! ## Settings -/

/-- Settings can work: no command is empty, and there is a cache root. -/
structure Settings.Valid (s : Settings) : Prop where
  commands : ∀ stage, s.recipe.command? stage ≠ some []
  cacheRoot : s.cacheRoot.isEmpty = false

/-- The check finds nothing wrong with settings just if they can work. -/
theorem Settings.check_eq_ok_iff (s : Settings) : s.check = .ok () ↔ s.Valid := by
  have hcommands : (Stage.all.find? fun stage => s.recipe.command? stage == some []) = none ↔
      ∀ stage, s.recipe.command? stage ≠ some [] := by
    simp only [List.find?_eq_none, beq_iff_eq]
    exact ⟨fun h stage => h stage (by cases stage <;> decide), fun h stage _ => h stage⟩
  rw [check]
  split
  · next stage hstage =>
    refine ⟨fun h => (nomatch h), fun h => ?_⟩
    cases hstage.symm.trans (hcommands.2 h.commands)
  · next hnone =>
    split
    · next hempty => exact ⟨fun h => (nomatch h), fun h => by simp [h.cacheRoot] at hempty⟩
    · next hroot =>
      exact ⟨fun _ => ⟨hcommands.1 hnone, Bool.eq_false_iff.2 hroot⟩, fun _ => rfl⟩

/-- A file holds settings: it can be read, its text is their form, and they can work. -/
def Settings.HeldBy (s : Settings) (files : FileTree) (path : Path) : Prop :=
  ∃ text j, files.readText path = .ok text ∧ Json.ofText? text = some j ∧
    Settings.ofJson? j = some s ∧ s.Valid

/-- Settings are loaded just if the file holds them. -/
theorem Settings.load_eq_ok_iff {files : FileTree} {path : Path} {s : Settings} :
    Settings.load files path = .ok s ↔ s.HeldBy files path := by
  rw [load]
  constructor
  · intro h
    split at h
    · cases h
    · next text htext =>
      split at h
      · cases h
      · next s' hread =>
        obtain ⟨j, hj, hread⟩ := Option.bind_eq_some_iff.1 hread
        obtain ⟨⟨⟩, hcheck, ⟨⟩⟩ := bind_eq_ok_iff.1 h
        exact ⟨text, j, htext, hj, hread, s.check_eq_ok_iff.1 hcheck⟩
  · rintro ⟨text, j, htext, hj, hread, hvalid⟩
    simp only [htext, hj, Option.bind_some, hread]
    exact bind_eq_ok_iff.2 ⟨(), s.check_eq_ok_iff.2 hvalid, rfl⟩

namespace Options

/-- The settings that a request starts from: the default ones, or those in the settings file. -/
inductive Base (o : Options) (files : FileTree) : Settings → Prop
  | default : o.config = none → Base o files {}
  | file {path : Path} {s : Settings} : o.config = some path → s.HeldBy files path → Base o files s

/-- The settings of a request: those that it starts from, with what the options say in their place,
if they can work. -/
def Configures (o : Options) (files : FileTree) (s : Settings) : Prop :=
  ∃ base, o.Base files base ∧ s = o.adjust base ∧ s.Valid

/-- What a request starts from is the default settings, or what is loaded from its settings file. -/
theorem base_eq_ok_iff {o : Options} {files : FileTree} {s : Settings} :
    o.config.elim (.ok {}) (fun path =>
      (Settings.load files path).mapError (Problem.settingsUnusable path)) = .ok s ↔
        o.Base files s := by
  cases hconfig : o.config with
  | none =>
    refine ⟨fun h => Except.ok.inj h ▸ .default hconfig, fun h => ?_⟩
    cases h with
    | default => rfl
    | file hpath => cases hconfig.symm.trans hpath
  | some path =>
    rw [Option.elim_some, mapError_eq_ok_iff, Settings.load_eq_ok_iff]
    refine ⟨.file hconfig, fun h => ?_⟩
    cases h with
    | default hnone => cases hconfig.symm.trans hnone
    | file hpath hheld =>
      obtain rfl := Option.some.inj (hconfig.symm.trans hpath)
      exact hheld

/-- A request has settings just if there are some to start from and the whole can work. -/
theorem settings_eq_ok_iff {o : Options} {files : FileTree} {s : Settings} :
    o.settings files = .ok s ↔ o.Configures files s := by
  have hsettings : o.settings files = .ok s ↔ ∃ base, o.Base files base ∧
      ∃ u, (o.adjust base).check.mapError Problem.settingsInvalid = .ok u ∧
        (.ok (o.adjust base) : Except Problem Settings) = .ok s := by
    simp only [← base_eq_ok_iff, ← bind_eq_ok_iff, settings]
    cases o.config <;> rfl
  rw [hsettings]
  refine exists_congr fun base => and_congr_right fun _ => ?_
  constructor
  · rintro ⟨u, hcheck, ⟨⟩⟩
    exact ⟨rfl, (o.adjust base).check_eq_ok_iff.1 (mapError_eq_ok_iff.1 hcheck)⟩
  · rintro ⟨rfl, hvalid⟩
    exact ⟨(), mapError_eq_ok_iff.2 ((o.adjust base).check_eq_ok_iff.2 hvalid), rfl⟩

end Options

/-- Wherever the cache root is, a suite with an absolute directory lies there. -/
theorem Settings.suiteDir_of_isAbsolute (s : Settings) {dir : Path} (h : dir.isAbsolute = true) :
    s.suiteDir dir = dir := by
  rw [suiteDir, Path.join, if_pos h]

/-- What is reached from the working directory has an absolute path. -/
theorem FileTree.isAbsolute_join_here (files : FileTree) (p : Path) :
    (files.here.join p).isAbsolute = true := by
  rw [Path.join]
  split
  · assumption
  · split
    · next hlast => simp [here] at hlast
    · rfl

/-! ## Plans -/

namespace Generation

/-- A table has a suite under a name just if that is a row of it. -/
theorem suite?_eq_some_iff {g : Generation} {row : String × Suite} :
    g.suite? row.1 = some row.2 ↔ row ∈ g.suites := by
  constructor
  · intro h
    obtain ⟨front, back, hrows, -⟩ := List.lookup_eq_some_iff.1 h
    rw [hrows]
    simp
  · -- no two rows of a table have the same name
    have hall : ∀ g ∈ all, ∀ row ∈ g.suites, g.suite? row.1 = some row.2 := by decide +kernel
    exact hall g (by cases g <;> decide) row

/-- A row is what a table gives for a name just if it has the name. -/
theorem look_eq_ok_iff {g : Generation} {name : String} {row : String × Suite}
    {unknown : Failure} :
    (g.suite? name).elim (.error unknown) (fun suite => .ok (name, suite)) = Except.ok row ↔
      row ∈ g.suites ∧ row.1 = name := by
  constructor
  · intro h
    cases hsuite : g.suite? name with
    | none =>
      rw [hsuite] at h
      cases h
    | some suite =>
      rw [hsuite] at h
      obtain rfl := Except.ok.inj h
      exact ⟨suite?_eq_some_iff.1 hsuite, rfl⟩
  · rintro ⟨hrow, rfl⟩
    rw [suite?_eq_some_iff.2 hrow]
    rfl

/-- A request is answered by the whole table if it names nothing, and otherwise by rows of the table
that have the names, in order. -/
theorem select_eq_ok_iff {g : Generation} {names : List String} {suites : List (String × Suite)} :
    g.select names = .ok suites ↔ names = [] ∧ suites = g.suites ∨
      suites ≠ [] ∧ suites.map Prod.fst = names ∧ ∀ row ∈ suites, row ∈ g.suites := by
  rw [select]
  split
  · next hempty =>
    obtain rfl := List.isEmpty_iff.1 hempty
    rw [List.map_eq_nil_iff, Except.ok.injEq, eq_comm]
    exact ⟨fun h => .inl ⟨rfl, h⟩, fun h => h.elim And.right fun h => absurd h.2.1 h.1⟩
  · next hnames =>
    rw [List.isEmpty_iff] at hnames
    have hrows : List.Forall₂ (fun row name => row ∈ g.suites ∧ row.1 = name) suites names ↔
        suites.map Prod.fst = names ∧ ∀ row ∈ suites, row ∈ g.suites := by
      rw [List.forall₂_and_left, and_comm, ← List.forall₂_eq_eq_eq, List.forall₂_map_left_iff]
    refine (mapM_eq_ok_iff fun name row => ?_).trans (hrows.trans ⟨fun h => .inr ⟨?_, h⟩, ?_⟩)
    · rw [← look_eq_ok_iff]
      cases g.suite? name <;> rfl
    · rintro rfl
      exact hnames h.1.symm
    · exact fun h => h.elim (fun h => absurd h.1 hnames) And.right

end Generation

namespace Task

/-- The plan that a task asks for. -/
inductive Asks (s : Settings) (files : FileTree) : Task → Plan → Prop
  /-- All suites of the table, where none is named. -/
  | all {g : Generation} : Asks s files (.test g []) ⟨g, g.suites, s.recipe⟩
  /-- The suites that are named, each as often as it is named. -/
  | named {g : Generation} {suites : List (String × Suite)} : suites ≠ [] →
      (∀ row ∈ suites, row ∈ g.suites) →
      Asks s files (.test g (suites.map Prod.fst)) ⟨g, suites, s.recipe⟩
  /-- A directory, which is a suite of its own whose corpus is not prepared. -/
  | directory {dir : Path} {g : Generation} : files.isDir (files.here.join dir) = true →
      Asks s files (.verify dir g)
        { generation := g
          suites := [((files.here.join dir).display, .unnamed (files.here.join dir))] }

end Task

/-- A request has a plan just if its task asks for it. -/
theorem Request.plan?_eq_ok_iff {r : Request} {s : Settings} {files : FileTree} {p : Plan} :
    r.plan? s files = some (.ok p) ↔ r.task.Asks s files p := by
  rw [plan?]
  cases r.task with
  | list g => exact ⟨fun h => (nomatch h), fun h => (nomatch h)⟩
  | verify dir g =>
    simp only [Plan.ofDirectory, Option.some.injEq]
    split
    · next hdir =>
      refine ⟨?_, ?_⟩
      · rintro ⟨⟩
        exact .directory hdir
      · rintro ⟨⟩
        rfl
    · next hdir =>
      refine ⟨fun h => (nomatch h), ?_⟩
      rintro ⟨⟩
      contradiction
  | test g names =>
    simp only [Plan.ofNames, Option.some.injEq]
    constructor
    · intro h
      split at h
      · next suites hsuites =>
        cases h
        obtain ⟨rfl, rfl⟩ | ⟨hne, rfl, hrows⟩ := Generation.select_eq_ok_iff.1 hsuites
        · exact .all
        · exact .named hne hrows
      · cases h
    · intro h
      cases h with
      | all => rw [Generation.select_eq_ok_iff.2 (.inl ⟨rfl, rfl⟩)]
      | named hne hrows => rw [Generation.select_eq_ok_iff.2 (.inr ⟨hne, rfl, hrows⟩)]

end RoundTrip

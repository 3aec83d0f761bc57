import Mathlib.Logic.Basic
import RoundTrip.Corpus
import RoundTrip.Proofs.Commands.Fates

/-!
# What the stages of a recipe come to

A stage that has a template starts a child, unless the filled-in template has no words or its first
word is empty; then the stage fails without a child (`Recipe.attempt`). A stage without a template
does nothing. The stages are run in order until one of them does not pass (`runStages_of_passes`,
`runStages_of_not_passes`), which leaves four ways for a preparation to go (`prepare_cases`). What
it comes to is a function of what becomes of its children (`Recipe.Told`): it is a success just if
each stage that has a template has a child which exits with the status 0, and else the first stage
that has no such child is reported, with a code that is told by its child (`Recipe.codeOf`).
-/

namespace RoundTrip.Recipe

variable {μ : Type}

/-- The code of a stage, told by what became of its child, if one was started. -/
def codeOf : Option Fate → Int32
  | none | some (.unlaunched _) | some (.lost _) => -1
  | some (.overran _) => -2
  | some (.exited status) => status
  | some (.killed signal) => -signal

/-- A stage with a child has the code of its ending. -/
theorem codeOf_some (fate : Fate) : codeOf (some fate) = fate.ending.code := by
  cases fate <;> rfl

/-! ## One stage -/

/-- The command that the words of a stage make. -/
def child (stage : Stage) (name program : String) (args : List String) : Command where
  program := ⟨Utf8.encode program⟩
  args := args.map Utf8.encode
  fatal := false
  description := some ("Cannot " ++ stage.name ++ " corpus of suite " ++ name)

/-- What comes of the words of a stage: what became of its child, if one was started. -/
def attemptWords (l : Launcher) (host : Host μ) (stage : Stage) (name : String) :
    List String → World μ → Outcome Remark (World μ) (Option Fate)
  | [], w => ⟨none, [], w⟩
  | program :: args, w =>
    let c := child stage name program args
    if program = "" then ⟨none, [.preparing name stage c], w⟩
    else
      let out := (host.run c l.verbose l.limit).run w
      ⟨some out.value,
        .preparing name stage c :: .launching c l.verbose :: out.events ++ l.said c out.value,
        out.state⟩

/-- The words of a stage give the code of what becomes of its child. -/
theorem runStage_run (l : Launcher) (host : Host μ) (stage : Stage) (name : String)
    (words : List String) (w : World μ) :
    (runStage l host stage name words).run w =
      let out := attemptWords l host stage name words w
      ⟨codeOf out.value, out.events, out.state⟩ := by
  cases words with
  | nil => rfl
  | cons program args =>
    have hcommand : stageCommand stage name (program :: args) =
        .ok (child stage name program args) := rfl
    by_cases hprogram : program = ""
    · subst hprogram
      rfl
    · have hname : (child stage name program args).program.isEmpty = false := by
        refine List.isEmpty_eq_false_iff.2 fun hbytes => hprogram ?_
        exact Utf8.encode_injective (a := program) (b := "") hbytes
      have hvisible : (l.verbose || (child stage name program args).visible) = l.verbose :=
        Bool.or_false _
      simp only [runStage, hcommand, attemptWords, if_neg hprogram, Launcher.executeCode,
        Act.run_bind, Act.run_emit, Launcher.execute_eq hname, hvisible, codeOf_some,
        Launcher.answer_of_not_fatal (c := child stage name program args) rfl, Except.map]
      simp

/-- A stage has the code 0 just if its child exits with the status 0. -/
theorem codeOf_attemptWords_eq_zero_iff {host : Host μ} (hreal : host.IsReal) (l : Launcher)
    (stage : Stage) (name : String) (words : List String) (w : World μ) :
    codeOf (attemptWords l host stage name words w).value = 0 ↔
      (attemptWords l host stage name words w).value = some (.exited 0) := by
  cases words with
  | nil => simp [attemptWords, codeOf]
  | cons program args =>
    rw [attemptWords]
    split
    · simp [codeOf]
    · rw [codeOf_some, Option.some.injEq]
      exact Fate.code_eq_zero_iff (hreal ..)

/-- What comes of a stage of a recipe for a suite: what became of its child, if one was started. -/
def attempt (r : Recipe) (l : Launcher) (host : Host μ) (name : String) (suite : Suite) (dir : Path)
    (stage : Stage) (w : World μ) : Outcome Remark (World μ) (Option Fate) :=
  match r.command? stage with
  | none => ⟨none, [], w⟩
  | some template => attemptWords l host stage name (instantiate template name suite dir) w

section Stages

variable (r : Recipe) (l : Launcher) (host : Host μ) (name : String) (suite : Suite) (dir : Path)

/-- A stage with a template has no child just if the template has no words or the first one is
filled in with nothing. -/
theorem attempt_eq_none_iff {stage : Stage} {template : List String} (w : World μ)
    (h : r.command? stage = some template) :
    (r.attempt l host name suite dir stage w).value = none ↔
      template = [] ∨ (instantiate template name suite dir).head? = some "" := by
  rw [attempt, h]
  cases template with
  | nil => simp [attemptWords, instantiate]
  | cons part parts =>
    simp only [attemptWords, instantiate, List.map_cons, List.head?_cons]
    split <;> simp_all

/-- A stage has no child, and then it starts nothing and changes nothing, or a child is started for
its filled-in words, and the host tells of it. -/
theorem attempt_cases (stage : Stage) (w : World μ) :
    let out := r.attempt l host name suite dir stage w
    (out.value = none ∧ out.state = w ∧ ∀ c visible, .launching c visible ∉ out.events) ∨
    ∃ template program args, r.command? stage = some template ∧
      instantiate template name suite dir = program :: args ∧
      out.value =
        some ((host.run (child stage name program args) l.verbose l.limit).run w).value ∧
      .launching (child stage name program args) l.verbose ∈ out.events := by
  intro out
  cases hstage : r.command? stage with
  | none => exact .inl (by simp [out, attempt, hstage])
  | some template =>
    cases hwords : instantiate template name suite dir with
    | nil => exact .inl (by simp [out, attempt, hstage, hwords, attemptWords])
    | cons program args =>
      by_cases hprogram : program = ""
      · exact .inl (by simp [out, attempt, hstage, hwords, attemptWords, hprogram])
      · refine .inr ⟨template, program, args, rfl, hwords, ?_, ?_⟩ <;>
          simp [out, attempt, hstage, hwords, attemptWords, hprogram]

/-- A stage has no template, or its child exits with the status 0. -/
def Passes (stage : Stage) (fate? : Option Fate) : Prop :=
  r.command? stage = none ∨ fate? = some (.exited 0)

variable {r l host name suite dir} {stage : Stage} {w : World μ}
  {out : Outcome Remark (World μ) (Option Fate)}

/-- Stages are run in order. Behind one that passes come the others. -/
theorem runStages_of_passes (hout : r.attempt l host name suite dir stage w = out)
    (h : r.Passes stage out.value) (rest : List Stage) :
    (runStages r l host name suite dir (stage :: rest)).run w =
      let others := (runStages r l host name suite dir rest).run out.state
      ⟨others.value, out.events ++ others.events, others.state⟩ := by
  subst hout
  rw [Passes, attempt] at h
  rw [runStages, attempt]
  cases hcommand : r.command? stage with
  | none => simp
  | some template =>
    have hexited := h.resolve_left (by simp [hcommand])
    simp only [hcommand] at hexited
    simp [runStage_run, hexited, codeOf]

/-- Nothing comes behind a stage that does not pass. -/
theorem runStages_of_not_passes (hreal : host.IsReal)
    (hout : r.attempt l host name suite dir stage w = out) (h : ¬ r.Passes stage out.value)
    (rest : List Stage) :
    (runStages r l host name suite dir (stage :: rest)).run w =
      ⟨.failed stage (codeOf out.value), out.events, out.state⟩ := by
  subst hout
  rw [Passes, attempt, not_or] at h
  rw [runStages, attempt]
  cases hcommand : r.command? stage with
  | none => exact absurd hcommand h.1
  | some template =>
    have hnonzero := mt (codeOf_attemptWords_eq_zero_iff hreal l stage name
      (instantiate template name suite dir) w).1 (by simpa only [hcommand] using h.2)
    simp [runStage_run, hnonzero]

variable (r l host name suite dir)

/-! ## All stages -/

/-- The world that a stage is run in: what the stage before it leaves. -/
def reached (w : World μ) : Stage → World μ
  | .compile => w
  | .regenerate => (r.attempt l host name suite dir .compile w).state

/-- What comes of a stage of a recipe in the world that it is run in. -/
def tried (w : World μ) (stage : Stage) : Outcome Remark (World μ) (Option Fate) :=
  r.attempt l host name suite dir stage (r.reached l host name suite dir w stage)

/-- A recipe is empty if no stage has a template. -/
theorem isEmpty_iff : r.isEmpty = true ↔ ∀ stage, r.command? stage = none := by
  rw [isEmpty, Bool.and_eq_true, Option.isNone_iff_eq_none, Option.isNone_iff_eq_none]
  constructor
  · rintro ⟨hcompile, hregenerate⟩ stage
    cases stage with
    | compile => exact hcompile
    | regenerate => exact hregenerate
  · exact fun h => ⟨h .compile, h .regenerate⟩

/-- A preparation is skipped if there is no template. Else the second stage is run behind the first
one if that passes, and the preparation fails with the first of them that does not pass. -/
theorem prepare_cases (hreal : host.IsReal) (w : World μ) :
    let out := (r.prepare l host name suite dir).run w
    let first := r.tried l host name suite dir w .compile
    let second := r.tried l host name suite dir w .regenerate
    (∀ stage, r.command? stage = none) ∧ out = ⟨.skipped, [], w⟩ ∨
    (∃ stage, r.command? stage ≠ none) ∧
      r.Passes .compile first.value ∧ r.Passes .regenerate second.value ∧
      out = ⟨.prepared, first.events ++ second.events, second.state⟩ ∨
    r.Passes .compile first.value ∧ ¬ r.Passes .regenerate second.value ∧
      out = ⟨.failed .regenerate (codeOf second.value), first.events ++ second.events,
        second.state⟩ ∨
    ¬ r.Passes .compile first.value ∧
      out = ⟨.failed .compile (codeOf first.value), first.events, first.state⟩ := by
  intro out first second
  have hfirst : r.attempt l host name suite dir .compile w = first := rfl
  have hsecond : r.attempt l host name suite dir .regenerate first.state = second := rfl
  by_cases hempty : r.isEmpty
  · exact .inl ⟨r.isEmpty_iff.1 hempty, by simp only [out, prepare, if_pos hempty, Act.run_pure]⟩
  have hsome : ∃ stage, r.command? stage ≠ none := by simpa [isEmpty_iff] using hempty
  have hout : out = (runStages r l host name suite dir [.compile, .regenerate]).run w := by
    simp only [out, prepare, if_neg hempty, Stage.all]
  by_cases hcompile : r.Passes .compile first.value
  · rw [runStages_of_passes hfirst hcompile] at hout
    by_cases hregenerate : r.Passes .regenerate second.value
    · rw [runStages_of_passes hsecond hregenerate] at hout
      exact .inr (.inl ⟨hsome, hcompile, hregenerate, by simpa [runStages] using hout⟩)
    · rw [runStages_of_not_passes hreal hsecond hregenerate] at hout
      exact .inr (.inr (.inl ⟨hcompile, hregenerate, hout⟩))
  · rw [runStages_of_not_passes hreal hfirst hcompile] at hout
    exact .inr (.inr (.inr ⟨hcompile, hout⟩))

variable {r l host name suite dir}

/-- A stage that does not pass has a template. -/
theorem not_passes_iff {fate? : Option Fate} :
    ¬ r.Passes stage fate? ↔ r.command? stage ≠ none ∧ fate? ≠ some (.exited 0) := not_or

/-- A preparation is skipped just if there is no template. -/
theorem prepare_eq_skipped_iff (hreal : host.IsReal) (w : World μ) :
    ((r.prepare l host name suite dir).run w).value = .skipped ↔
      ∀ stage, r.command? stage = none := by
  obtain ⟨hnone, h⟩ | ⟨⟨stage, hsome⟩, -, -, h⟩ | ⟨-, hfail, h⟩ | ⟨hfail, h⟩ :=
    r.prepare_cases l host name suite dir hreal w
  · simpa [h] using hnone
  · simpa [h] using ⟨stage, hsome⟩
  · simpa [h] using ⟨_, (not_passes_iff.1 hfail).1⟩
  · simpa [h] using ⟨_, (not_passes_iff.1 hfail).1⟩

/-- A preparation succeeds just if there is a template and all stages pass. -/
theorem prepare_eq_prepared_iff (hreal : host.IsReal) (w : World μ) :
    ((r.prepare l host name suite dir).run w).value = .prepared ↔
      (∃ stage, r.command? stage ≠ none) ∧
      ∀ stage, r.Passes stage (r.tried l host name suite dir w stage).value := by
  obtain ⟨hnone, h⟩ | ⟨hsome, hfirst, hsecond, h⟩ | ⟨-, hfail, h⟩ | ⟨hfail, h⟩ :=
    r.prepare_cases l host name suite dir hreal w
  · simp [h, hnone]
  · refine ⟨fun _ => ⟨hsome, fun stage => ?_⟩, fun _ => by rw [h]⟩
    cases stage with
    | compile => exact hfirst
    | regenerate => exact hsecond
  · simp only [h, reduceCtorEq, false_iff]
    exact fun hall => hfail (hall.2 .regenerate)
  · simp only [h, reduceCtorEq, false_iff]
    exact fun hall => hfail (hall.2 .compile)

/-- A preparation fails with the first stage that does not pass. -/
theorem prepare_eq_failed_iff (hreal : host.IsReal) (w : World μ) (stage : Stage) (code : Int32) :
    ((r.prepare l host name suite dir).run w).value = .failed stage code ↔
      ¬ r.Passes stage (r.tried l host name suite dir w stage).value ∧
      code = codeOf (r.tried l host name suite dir w stage).value ∧
      (stage = .regenerate →
        r.Passes .compile (r.tried l host name suite dir w .compile).value) := by
  obtain ⟨hnone, h⟩ | ⟨-, hfirst, hsecond, h⟩ | ⟨hfirst, hfail, h⟩ | ⟨hfail, h⟩ :=
    r.prepare_cases l host name suite dir hreal w
  · simp [h, Passes, hnone]
  · cases stage <;> simp [h, hfirst, hsecond]
  · cases stage <;> simp [h, hfirst, hfail, eq_comm]
  · cases stage <;> simp [h, hfail, eq_comm]

/-- Nothing follows a stage that does not pass. -/
theorem events_prepare (hreal : host.IsReal) (w : World μ) :
    let out := (r.prepare l host name suite dir).run w
    let first := r.tried l host name suite dir w .compile
    let second := r.tried l host name suite dir w .regenerate
    (r.Passes .compile first.value → out.events = first.events ++ second.events ∧
      out.state = second.state) ∧
    (¬ r.Passes .compile first.value → out.events = first.events ∧ out.state = first.state) := by
  intro out first second
  obtain ⟨hnone, h⟩ | ⟨-, hfirst, -, h⟩ | ⟨hfirst, -, h⟩ | ⟨hfail, h⟩ :=
    r.prepare_cases l host name suite dir hreal w
  · have hfirst : first = ⟨none, [], w⟩ := by simp [first, tried, attempt, reached, hnone]
    have hsecond : second = ⟨none, [], w⟩ := by simp [second, tried, attempt, reached, hnone]
    simp [out, h, hfirst, hsecond, Passes, hnone]
  · exact ⟨fun _ => by simp [out, first, second, h], fun hfail => absurd hfirst hfail⟩
  · exact ⟨fun _ => by simp [out, first, second, h], fun hfail => absurd hfirst hfail⟩
  · exact ⟨fun hfirst => absurd hfirst hfail, fun _ => by simp [out, first, h]⟩

variable (r l host name suite dir)

/-- What a preparation comes to, told by what becomes of the children of its stages. -/
structure Told (w : World μ) (out : Outcome Remark (World μ) Preparation) : Prop where
  /-- It is skipped just if there is no template. -/
  skipped : out.value = .skipped ↔ ∀ stage, r.command? stage = none
  /-- It succeeds just if there is a template, and each stage with one has a child that exits with
  the status 0. -/
  prepared : out.value = .prepared ↔ (∃ stage, r.command? stage ≠ none) ∧
    ∀ stage, r.command? stage ≠ none →
      (r.tried l host name suite dir w stage).value = some (.exited 0)
  /-- It fails with the first stage that has a template and no such child, and with the code that
  tells what became of the child, if there is one. -/
  failed : ∀ stage code, out.value = .failed stage code ↔
    r.command? stage ≠ none ∧
    (r.tried l host name suite dir w stage).value ≠ some (.exited 0) ∧
    code = codeOf (r.tried l host name suite dir w stage).value ∧
    (stage = .regenerate → r.command? .compile ≠ none →
      (r.tried l host name suite dir w .compile).value = some (.exited 0))
  /-- A stage with a template has no child just if the template has no words or the first one is
  filled in with nothing. -/
  childless : ∀ stage template, r.command? stage = some template →
    ((r.tried l host name suite dir w stage).value = none ↔
      template = [] ∨ (instantiate template name suite dir).head? = some "")
  /-- A child is started for the filled-in words of a stage, and the host tells of it. -/
  started : ∀ stage fate, (r.tried l host name suite dir w stage).value = some fate →
    ∃ template program args, r.command? stage = some template ∧
      instantiate template name suite dir = program :: args ∧
      ((host.run (child stage name program args) l.verbose l.limit).run
        (r.reached l host name suite dir w stage)).value = fate ∧
      .launching (child stage name program args) l.verbose ∈
        (r.tried l host name suite dir w stage).events
  /-- A stage without a child starts nothing and changes nothing. -/
  idle : ∀ stage, (r.tried l host name suite dir w stage).value = none →
    (r.tried l host name suite dir w stage).state = r.reached l host name suite dir w stage ∧
    ∀ c visible, .launching c visible ∉ (r.tried l host name suite dir w stage).events
  /-- The texts are regenerated behind the compilation if that has no template or a child that exits
  with the status 0. -/
  both : r.command? .compile = none ∨
      (r.tried l host name suite dir w .compile).value = some (.exited 0) →
    out.events = (r.tried l host name suite dir w .compile).events ++
        (r.tried l host name suite dir w .regenerate).events ∧
      out.state = (r.tried l host name suite dir w .regenerate).state
  /-- Else nothing follows the compilation. -/
  only : r.command? .compile ≠ none →
      (r.tried l host name suite dir w .compile).value ≠ some (.exited 0) →
    out.events = (r.tried l host name suite dir w .compile).events ∧
      out.state = (r.tried l host name suite dir w .compile).state

/-- Whatever becomes of the children, a preparation comes to what `Told` says. -/
theorem told_prepare (hreal : host.IsReal) (w : World μ) :
    r.Told l host name suite dir w ((r.prepare l host name suite dir).run w) where
  skipped := prepare_eq_skipped_iff hreal w
  prepared := by
    rw [prepare_eq_prepared_iff hreal w]
    exact and_congr_right' (forall_congr' fun _ => or_iff_not_imp_left)
  failed stage code := by
    rw [prepare_eq_failed_iff hreal w, not_passes_iff, and_assoc]
    simp only [Passes, or_iff_not_imp_left, ne_eq]
  childless stage template h := r.attempt_eq_none_iff l host name suite dir _ h
  started stage fate h := by
    obtain ⟨hnone, -⟩ | ⟨template, program, args, htemplate, hwords, hfate, hlaunching⟩ :=
      r.attempt_cases l host name suite dir stage (r.reached l host name suite dir w stage)
    · cases hnone.symm.trans h
    · exact ⟨template, program, args, htemplate, hwords,
        Option.some.inj (hfate.symm.trans h), hlaunching⟩
  idle stage h := by
    obtain ⟨-, hidle⟩ | ⟨_, _, _, -, -, hfate, -⟩ :=
      r.attempt_cases l host name suite dir stage (r.reached l host name suite dir w stage)
    · exact hidle
    · cases hfate.symm.trans h
  both := (events_prepare hreal w).1
  only hsome hfail := (events_prepare hreal w).2 (not_or.2 ⟨hsome, hfail⟩)

end Stages

end RoundTrip.Recipe

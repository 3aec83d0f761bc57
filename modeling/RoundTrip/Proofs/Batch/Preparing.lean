import Mathlib.Data.List.Forall2
import RoundTrip.Proofs.Batch.Unlaunched
import RoundTrip.Proofs.Corpus.Stages
import RoundTrip.Proofs.Run.Agreement

/-!
# Preparations make no difference

Two runs are compared whose tools agree but for their builders and their clocks. The builders may
say what they like of a corpus, and take as long as they like, if they leave worlds that correspond
(`Tools.AgreeApart`). The two runs are then alike in all that matters (`Run.Alike`): they take the
same steps, and their results differ in nothing but what is told of the corpora and of the time
(`RunResult.Alike`). A walk over a directory calls no builder and reads no clock, so the walks of
the two agree in all that they do (`verify_agree_apart`), and the rest of a run hands on what the
builder tells without looking at it (`runSuite_alike`, `runEachSuite_alike`).

`preparation_told` states this beside what a preparation comes to.
-/

namespace RoundTrip

/-- Entries about a suite that differ in nothing but what is told of its corpus and of the time. -/
def SuiteEntry.Alike (e e' : SuiteEntry) : Prop :=
  e' = { e with corpus := e'.corpus, durationMs := e'.durationMs }

/-- Ledgers whose entries are alike. -/
structure Ledger.Alike (l l' : Ledger) : Prop where
  entries : List.Forall₂ SuiteEntry.Alike l.entries l'.entries
  allPassed : l'.allPassed = l.allPassed
  cancelled : l'.cancelled = l.cancelled

/-- Results that differ in nothing but what is told of corpora and of the time. -/
structure RunResult.Alike (r r' : RunResult) : Prop where
  runId : r'.runId = r.runId
  success : r'.success = r.success
  cancelled : r'.cancelled = r.cancelled
  exitCode : r'.exitCode = r.exitCode
  suites : List.Forall₂ SuiteEntry.Alike r.suites r'.suites

/-- Ledgers stay alike if entries are added that are. -/
theorem Ledger.Alike.add {l l' : Ledger} {e e' : SuiteEntry} (h : l.Alike l') (he : e.Alike e')
    (tally : Tally) : (l.add e tally).Alike (l'.add e' tally) where
  entries := List.rel_append h.entries (.cons he .nil)
  allPassed := by
    have hverdict : e'.verdict = e.verdict := by rw [he]
    simp only [Ledger.add, h.allPassed, hverdict]
  cancelled := by simp only [Ledger.add, h.cancelled]

/-- Ledgers that are alike give results that are. -/
theorem Ledger.Alike.result {l l' : Ledger} (h : l.Alike l') (runId : String)
    (requested durationMs durationMs' : Nat) :
    (l.result runId requested durationMs).Alike (l'.result runId requested durationMs') := by
  have hsuccess : (l'.result runId requested durationMs').success =
      (l.result runId requested durationMs).success := by
    simp only [Ledger.result, h.allPassed, h.cancelled, h.entries.length_eq]
  exact ⟨rfl, hsuccess, h.cancelled, by simp only [RunResult.exitCode, hsuccess], h.entries⟩

variable {μ ν α β γ δ : Type}

/-- Attempts that fail alike, or give values that are related. -/
inductive Attempt.Alike (V : α → β → Prop) : Attempt α → Attempt β → Prop
  | ok {x : α} {y : β} : V x y → Alike V (.ok x) (.ok y)
  | error (f : Failure) : Alike V (.error f) (.error f)

/-- Tools agree apart from their builders and their clocks. The builders leave worlds that
correspond, and both ask for the run to be cancelled or neither does. -/
structure Tools.AgreeApart (W : World μ → World ν → Prop) (tools : Tools μ) (tools' : Tools ν) :
    Prop where
  files : ∀ {w w'}, W w w' → w'.files = w.files
  assemble : ∀ {w w'} (text : Path), W w w' →
    Outcome.Agree W ((tools.assemble text).run w) ((tools'.assemble text).run w')
  interpret : ∀ {w w'} (binary : Path), W w w' →
    Outcome.Agree W ((tools.interpret binary).run w) ((tools'.interpret binary).run w')
  afterMark : ∀ {w w'} (passed : Bool), W w w' →
    Outcome.Agree W ((tools.afterMark passed).run w) ((tools'.afterMark passed).run w')
  afterSummary : ∀ {w w'} (suite : String) (verdict : Verdict), W w w' →
    Outcome.Agree W ((tools.afterSummary suite verdict).run w)
      ((tools'.afterSummary suite verdict).run w')
  leaves : ∀ {w w'} (name : String) (suite : Suite) (dir : Path), W w w' →
    W ((tools.prepare name suite dir).run w).state ((tools'.prepare name suite dir).run w').state
  cancels : ∀ {w w'} (name : String) (suite : Suite) (dir : Path), W w w' →
    ((tools'.prepare name suite dir).run w').events.any Remark.isCancel =
      ((tools.prepare name suite dir).run w).events.any Remark.isCancel

/-- Tools without a builder and without a clock. -/
def Tools.bare (tools : Tools μ) : Tools μ :=
  { tools with prepare := fun _ _ _ => pure .skipped, clock := fun _ => 0 }

/-- Tools that agree apart from their builders and their clocks agree without them. -/
theorem Tools.AgreeApart.bare {W : World μ → World ν → Prop} {tools : Tools μ} {tools' : Tools ν}
    (ht : tools.AgreeApart W tools') : tools.bare.Agree W tools'.bare where
  files := ht.files
  clock _ := rfl
  assemble text _ h _ := ht.assemble text h
  interpret := ht.interpret
  prepare _ _ _ h := ⟨rfl, rfl, h⟩
  afterMark := ht.afterMark
  afterSummary := ht.afterSummary

namespace Run

variable {W : World μ → World ν → Prop}

/-! ## Walks -/

/-- An examination calls no builder and reads no clock. -/
theorem examineAll_bare (tools : Tools μ) (found : Nat) (artifacts : List Artifact)
    (tally : Tally) :
    examineAll tools.bare found artifacts tally = examineAll tools found artifacts tally := by
  induction artifacts generalizing tally with
  | nil => rfl
  | cons a rest ih =>
    simp only [examineAll, ih]
    rfl

/-- A walk calls no builder and reads no clock. -/
theorem verify_bare (tools : Tools μ) (root : Path) :
    verify tools.bare root = verify tools root := by
  simp only [verify, examineAll_bare]

/-- Actions that end alike or at an assembler agree in all that they do if the assemblers do. -/
theorem Ends.agree {tools : Tools μ} {tools' : Tools ν} {act : Run μ (Attempt α)}
    {act' : Run ν (Attempt α)} {s : Site μ} {s' : Site ν}
    (h : Ends W tools tools' act act' s s')
    (hassemble : ∀ {w w'} (text : Path), W w w' →
      Outcome.Agree W ((tools.assemble text).run w) ((tools'.assemble text).run w')) :
    Outcome.Agree (Site.Agree W) (act.run s) (act'.run s') := by
  cases h with
  | alike _ hagree => exact hagree
  | @stopped front text t t' f ht hstop hfront hagain =>
    have hcall := Agree.perform_of ht (hassemble text ht.world)
    have hstop' := hagain f (hcall.value.trans hstop.answers.1)
    refine ⟨hstop'.value.trans hstop.value.symm, ?_, ?_⟩
    · rw [hstop'.events, hstop.events, hcall.events]
    · rw [← hstop.answers.2, ← hstop'.answers.2]
      exact hcall.state

/-- Walks agree in all that they do if the tools agree apart from builders and clocks. -/
theorem verify_agree_apart {tools : Tools μ} {tools' : Tools ν} (ht : tools.AgreeApart W tools')
    (root : Path) : Agree W (verify tools root) (verify tools' root) := by
  intro s s' hs
  rw [← verify_bare tools, ← verify_bare tools']
  exact (verify_agree ht.bare root hs).agree ht.assemble

/-! ## Actions that are alike -/

/-- Two outcomes of a run are alike: their values are related, they take the same steps, and they
leave sites that agree. -/
structure AlikeOutcome (V : α → β → Prop) (W : World μ → World ν → Prop)
    (out : Outcome Event (Site μ) α) (out' : Outcome Event (Site ν) β) : Prop where
  value : V out.value out'.value
  steps : out'.events.filter Event.isStep = out.events.filter Event.isStep
  state : Site.Agree W out.state out'.state

/-- Two actions are alike in sites that agree. -/
def Alike (V : α → β → Prop) (W : World μ → World ν → Prop) (act : Run μ α) (act' : Run ν β) :
    Prop :=
  ∀ ⦃s s'⦄, Site.Agree W s s' → AlikeOutcome V W (act.run s) (act'.run s')

namespace Alike

variable {V : α → β → Prop} {U : γ → δ → Prop}

theorem of_agree {act : Run μ α} {act' : Run ν α} (h : Agree W act act') :
    Alike (fun x y => y = x) W act act' := fun _ _ hs =>
  ⟨(h hs).value, congrArg _ (h hs).events, (h hs).state⟩

theorem pure {x : α} {y : β} (h : V x y) : Alike V W (Pure.pure x) (Pure.pure y) :=
  fun _ _ hs => ⟨h, rfl, hs⟩

/-- Actions are alike one after the other. -/
theorem bind {act : Run μ α} {act' : Run ν β} {next : α → Run μ γ} {next' : β → Run ν δ}
    (h : Alike V W act act') (hnext : ∀ x y, V x y → Alike U W (next x) (next' y)) :
    Alike U W (act >>= next) (act' >>= next') := by
  intro s s' hs
  have hrest := hnext _ _ (h hs).value (h hs).state
  refine ⟨hrest.value, ?_, hrest.state⟩
  simp only [Act.run_bind, List.filter_append, (h hs).steps, hrest.steps]

/-- Actions are alike behind actions that agree. -/
theorem behind {act : Run μ α} {act' : Run ν α} {next : α → Run μ γ} {next' : α → Run ν δ}
    (h : Agree W act act') (hnext : ∀ x, Alike U W (next x) (next' x)) :
    Alike U W (act >>= next) (act' >>= next') :=
  bind (of_agree h) fun x _ hxy => hxy ▸ hnext x

/-- Actions are alike behind attempts that are, if both pass failures on. -/
theorem attempt {act : Run μ (Attempt α)} {act' : Run ν (Attempt β)}
    {next : Attempt α → Run μ (Attempt γ)} {next' : Attempt β → Run ν (Attempt δ)}
    (h : Alike (Attempt.Alike V) W act act')
    (hfail : ∀ f, next (.error f) = Pure.pure (.error f))
    (hfail' : ∀ f, next' (.error f) = Pure.pure (.error f))
    (hnext : ∀ x y, V x y → Alike (Attempt.Alike U) W (next (.ok x)) (next' (.ok y))) :
    Alike (Attempt.Alike U) W (act >>= next) (act' >>= next') := by
  refine bind h fun x y hxy => ?_
  cases hxy with
  | ok hxy => exact hnext _ _ hxy
  | error f =>
    rw [hfail, hfail']
    exact pure (.error f)

/-- Clocks may tell different times. -/
theorem now (tools : Tools μ) (tools' : Tools ν) :
    Alike (fun _ _ => True) W (Run.now tools) (Run.now tools') := fun _ _ hs => ⟨trivial, rfl, hs⟩

/-- Builders that leave worlds that correspond may say what they like: a remark is no step. -/
theorem builder {tool : Tool μ α} {tool' : Tool ν β}
    (hstate : ∀ {w w'}, W w w' → W (tool.run w).state (tool'.run w').state)
    (hcancel : ∀ {w w'}, W w w' →
      (tool'.run w').events.any Remark.isCancel = (tool.run w).events.any Remark.isCancel) :
    Alike (fun _ _ => True) W (perform tool) (perform tool') := by
  intro s s' hs
  have hremarks : ∀ remarks : List Remark, (remarks.map Event.remark).filter Event.isStep = [] :=
    fun remarks => List.filter_eq_nil_iff.2 fun e he => by
      obtain ⟨r, -, rfl⟩ := List.mem_map.1 he
      exact Bool.false_ne_true
  refine ⟨trivial, ?_, hstate hs.world, ?_⟩
  · exact (hremarks _).trans (hremarks _).symm
  · exact congrArg₂ Bool.or hs.cancelled (hcancel hs.world)

end Alike

/-! ## Suites -/

section Alike

variable {tools : Tools μ} {tools' : Tools ν} (ht : tools.AgreeApart W tools')

include ht

/-- Preparations are alike, whatever their builders tell. -/
theorem prepare_alike (name : String) (suite : Suite) (dir : Path) :
    Alike (fun _ _ => True) W (prepare tools name suite dir) (prepare tools' name suite dir) := by
  refine .behind (.emit _) fun _ =>
    .bind (.builder (ht.leaves name suite dir) (ht.cancels name suite dir))
      fun status status' _ => ?_
  -- a failure is noted, which is no step
  intro s s' hs
  cases status <;> cases status' <;> exact ⟨trivial, rfl, hs⟩

/-- Runs of a suite are alike: their entries are, and the artifacts are tallied alike. -/
theorem runSuite_alike (settings : Settings) (name : String) (suite : Suite) :
    Alike (Attempt.Alike fun x y => x.1.Alike y.1 ∧ y.2 = x.2) W
      (runSuite tools settings name suite) (runSuite tools' settings name suite) := by
  refine .bind (.now tools tools') fun start start' _ => .behind (.note _) fun _ =>
    .bind (prepare_alike ht name suite _) fun corpus corpus' _ =>
    .behind (verify_agree_apart ht _) fun attempt => ?_
  cases attempt with
  | error f => exact .pure (.error f)
  | ok tally =>
    exact .behind (conclude_agree ht.bare name tally) fun verdict =>
      .bind (.now tools tools') fun stop stop' _ => .pure (.ok ⟨rfl, rfl⟩)

/-- Runs of suites are alike. -/
theorem runEachSuite_alike (settings : Settings) (suites : List (String × Suite))
    {ledger ledger' : Ledger} (h : ledger.Alike ledger') :
    Alike (Attempt.Alike Ledger.Alike) W (runEachSuite tools settings suites ledger)
      (runEachSuite tools' settings suites ledger') := by
  induction suites generalizing ledger ledger' with
  | nil => exact .pure (.ok h)
  | cons row rest ih =>
    obtain ⟨name, suite⟩ := row
    refine .behind (.see fun hs => hs.cancelled) fun cancelled => ?_
    cases cancelled with
    | true => exact .pure (.ok ⟨h.entries, h.allPassed, rfl⟩)
    | false =>
      refine .attempt (runSuite_alike ht settings name suite) (fun _ => rfl) (fun _ => rfl) ?_
      rintro ⟨entry, tally⟩ ⟨entry', tally'⟩ ⟨hentry, rfl⟩
      exact ih (h.add hentry _)

/-- Runs over suites are alike. -/
theorem batch_alike (generation : Generation) (settings : Settings) (runId : String)
    (suites : List (String × Suite)) :
    Alike (Attempt.Alike RunResult.Alike) W (batch tools generation settings runId suites)
      (batch tools' generation settings runId suites) := by
  refine .behind (.emit _) fun _ => .bind (.now tools tools') fun start start' _ =>
    .behind (.note _) fun _ =>
    .attempt (runEachSuite_alike ht settings suites ⟨.nil, rfl, rfl⟩) (fun _ => rfl) (fun _ => rfl)
      fun ledger ledger' h => ?_
  refine .bind (.now tools tools') fun stop stop' _ => ?_
  have hresult := h.result runId suites.length (stop - start) (stop' - start')
  dsimp only
  rw [hresult.success, hresult.cancelled]
  exact .behind (.note _) fun _ => .pure (.ok hresult)

end Alike

/-- What a preparation comes to, and how little depends on it. What a preparation tells is a
function of what becomes of the children of its stages (`Recipe.Told`). Two runs whose tools agree
apart from their builders and their clocks are alike: they take the same steps, and they stop with
the same failure or have results that differ in nothing but what is told of the corpora and of the
time. -/
theorem preparation_told :
    (∀ {μ : Type} (r : Recipe) (l : Launcher) (host : Host μ) (name : String) (suite : Suite)
      (dir : Path) (w : World μ), host.IsReal →
      r.Told l host name suite dir w ((r.prepare l host name suite dir).run w)) ∧
    ∀ {μ ν : Type} (W : World μ → World ν → Prop) (tools : Tools μ) (tools' : Tools ν),
      tools.AgreeApart W tools' →
      ∀ (generation : Generation) (settings : Settings) (runId : String)
        (suites : List (String × Suite)) (s : Site μ) (s' : Site ν), Site.Agree W s s' →
        AlikeOutcome (Attempt.Alike RunResult.Alike) W
          ((batch tools generation settings runId suites).run s)
          ((batch tools' generation settings runId suites).run s') :=
  ⟨fun r l host name suite dir w hreal => r.told_prepare l host name suite dir hreal w,
    fun _ _ _ ht generation settings runId suites _ _ hs =>
      batch_alike ht generation settings runId suites hs⟩

/-- A host on which each command exits with the number of those before it. -/
def countingHost : Host Nat where
  run _ _ _ := do
    let before ← Act.see World.memory
    Act.change fun w => { w with memory := before + 1 }
    pure (.exited (Int32.ofNat before))
  query _ _ := pure .failed

/-- A recipe with a command for each stage. -/
def sampleRecipe : Recipe := ⟨some ["cc", "\x7btarget\x7d"], some ["opt"]⟩

/-- Sample tools with a builder that fails and puts the clock forward. -/
def laggingTools : Tools Nat :=
  { unlaunchedTools with
    prepare := fun _ _ _ => do
      Act.change fun w => { w with memory := w.memory + 7 }
      pure (.failed .compile 3) }

/-- The other tools see the files only, and these are as they were. -/
theorem agreeApart_lagging :
    unlaunchedTools.AgreeApart (fun w w' => w'.files = w.files) laggingTools where
  files h := h
  assemble _ h := ⟨rfl, rfl, h⟩
  interpret _ h := ⟨rfl, rfl, h⟩
  afterMark _ h := ⟨rfl, rfl, h⟩
  afterSummary _ _ h := ⟨rfl, rfl, h⟩
  leaves _ _ _ h := h
  cancels _ _ _ _ := rfl

/-- The second stage fails, and a run is a success whatever is told of its corpus. -/
theorem preparation_told_sample :
    ((sampleRecipe.prepare {} countingHost "whole" (.unnamed sampleRoot) sampleRoot).run
      ⟨default, 0⟩).value = .failed .regenerate 1 ∧
    ∃ result, ((batch laggingTools .llvm38 {} "run" [("whole", .unnamed sampleRoot)]).run
      wholeSite).value = .ok result ∧ result.success = true := by
  obtain ⟨htold, halike⟩ := preparation_told
  constructor
  · have h := htold sampleRecipe {} countingHost "whole" (.unnamed sampleRoot) sampleRoot
      ⟨default, 0⟩ fun _ _ _ _ => trivial
    exact (h.failed .regenerate 1).2 (by decide +kernel)
  · obtain ⟨result, hresult, hsuccess⟩ := batch_whole
    have h := (halike _ _ _ agreeApart_lagging .llvm38 {} "run" [("whole", .unnamed sampleRoot)]
      wholeSite wholeSite ⟨rfl, rfl⟩).value
    rw [hresult] at h
    generalize ((batch laggingTools .llvm38 {} "run" _).run wholeSite).value = out at h
    cases h with
    | ok hr => exact ⟨_, rfl, hr.success.trans hsuccess⟩

end Run

end RoundTrip

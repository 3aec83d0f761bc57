import RoundTrip.Proofs.Batch.Session
import RoundTrip.Proofs.Commands.Fates

/-!
# Passing without running

A pass says that two binaries ended alike, and a binary that was never started ends like another
that was never started. So an artifact can pass although neither of its binaries ran, and an
interpreter that cannot be launched lets every artifact pass whose text is accepted and whose
reference binary is there. `pass_needs_no_launch` refutes that a pass needs a launch, for one
artifact and for a whole run, with an interpreter that is not installed. `passed_unlaunched_iff`
says when an artifact passes in this way, when a run does, and when an installed interpreter gives
the ending `launchFailed`.
-/

namespace RoundTrip

/-- Whether nobody knows how a command ended, because it was not started or not waited for. -/
def Fate.isUnlaunched : Fate → Bool
  | .unlaunched _ | .lost _ => true
  | _ => false

namespace Installed

variable {μ : Type}

/-- What becomes of the command of an interpreter on an input. -/
def fate (t : Installed) (host : Host μ) (input : Path) (w : World μ) : Fate :=
  ((host.run (t.interpretation [] input) t.launcher.verbose t.launcher.limit).run w).value

/-- An installed interpreter gives the ending `launchFailed` just if its program has no name or
nobody knows how its command ended. -/
theorem interpret_eq_launchFailed_iff (t : Installed) (host : Host μ) (input : Path)
    (w : World μ) :
    ((t.interpret host [] input).run w).value = .launchFailed ↔
      t.program.isEmpty = true ∨ (t.fate host input w).isUnlaunched = true := by
  cases hprogram : t.program.isEmpty with
  | true => simp [interpret_empty hprogram]
  | false =>
    have hname : (t.interpretation [] input).program.isEmpty = false := hprogram
    have hvisible : (t.interpretation [] input).visible = false := rfl
    have hending : _ = Except.ok _ :=
      (congrArg Outcome.value (Launcher.execute_eq hname t.launcher host w)).trans
        (Launcher.answer_of_not_fatal rfl _ _)
    rw [interpret_of_execute rfl hending, hvisible, Bool.or_false]
    change (t.fate host input w).ending = .launchFailed ↔ _
    cases t.fate host input w <;> simp [Fate.ending, Fate.isUnlaunched]

end Installed

namespace Run

variable {μ : Type}

/-- An artifact passes with an ending just if the assembler accepts its text, its reference binary
is then a file, and the interpreter gives this ending to both binaries. -/
theorem examine_eq_passed_iff {tools : Tools μ} {a : Artifact} {s : Site μ} {ending : Ending} :
    ((examine tools a).run s).value = .ok (.passed ending) ↔
      ∃ s₁ s₂ s₃, Answers (tools.assemble a.text) s (.ok 0) s₁ ∧
        s₁.world.files.isFile a.reference = true ∧
        Answers (tools.interpret a.reference) s₁ ending s₂ ∧
        Answers (tools.interpret a.binary) s₂ ending s₃ := by
  constructor
  · intro h
    obtain ⟨f, s₁, ha⟩ | ⟨f, calls, s', he⟩ := examine_cases tools a s
    · rw [(examine_yields_error ha).value] at h
      cases h
    · rw [he.yields.value] at h
      injection h with h
      subst h
      cases he with
      | agreed h₁ hf h₂ h₃ => exact ⟨_, _, _, h₁, hf, h₂, h₃⟩
  · rintro ⟨_, _, _, h₁, hf, h₂, h₃⟩
    exact (Examination.agreed h₁ hf h₂ h₃).yields.value

/-- With an interpreter that cannot be launched, an artifact passes just if its text is accepted
and its reference binary is there. -/
theorem passes_iff_of_launchFailed {tools : Tools μ} {a : Artifact} {s : Site μ}
    (h : ∀ path w, ((tools.interpret path).run w).value = .launchFailed) :
    Passes tools a s ↔ ∃ s₁, Answers (tools.assemble a.text) s (.ok 0) s₁ ∧
      s₁.world.files.isFile a.reference = true := by
  constructor
  · rintro ⟨s₁, _, _, _, h₁, hf, -⟩
    exact ⟨s₁, h₁, hf⟩
  · rintro ⟨s₁, h₁, hf⟩
    exact ⟨s₁, _, _, .launchFailed, h₁, hf, ⟨h _ _, rfl⟩, ⟨h _ _, rfl⟩⟩

/-- When a pass is no proof that something ran. An artifact passes with an ending just if both
calls of the interpreter give it, so it passes with `launchFailed` just if both launches fail. A
run whose launches all fail is a success just if every suite has its session, and the text of each
artifact is accepted and its reference binary is there. An installed interpreter gives the ending
`launchFailed` just if it has no name or nobody knows how its command ended. -/
theorem passed_unlaunched_iff (tools : Tools μ) :
    (∀ (a : Artifact) (s : Site μ) (ending : Ending),
      ((examine tools a).run s).value = .ok (.passed ending) ↔
        ∃ s₁ s₂ s₃, Answers (tools.assemble a.text) s (.ok 0) s₁ ∧
          s₁.world.files.isFile a.reference = true ∧
          Answers (tools.interpret a.reference) s₁ ending s₂ ∧
          Answers (tools.interpret a.binary) s₂ ending s₃) ∧
    (∀ (generation : Generation) (settings : Settings) (runId : String)
      (suites : List (String × Suite)) (s : Site μ) (result : RunResult),
      (∀ path w, ((tools.interpret path).run w).value = .launchFailed) →
      ((batch tools generation settings runId suites).run s).value = .ok result →
      ∃ sessions s', Sessions tools settings s sessions s' ∧
        (result.success = true ↔
          sessions.map Session.request = suites ∧
          ∀ x ∈ sessions, x.found settings ≠ [] ∧
            x.visits.map (·.artifact) = x.found settings ∧
            ∀ v ∈ x.visits, ∃ s₁, Answers (tools.assemble v.artifact.text) v.before (.ok 0) s₁ ∧
              s₁.world.files.isFile v.artifact.reference = true)) ∧
    ∀ (t : Installed) (host : Host μ) (input : Path) (w : World μ),
      ((t.interpret host [] input).run w).value = .launchFailed ↔
        t.program.isEmpty = true ∨ (t.fate host input w).isUnlaunched = true := by
  refine ⟨fun _ _ _ => examine_eq_passed_iff, ?_, Installed.interpret_eq_launchFailed_iff⟩
  intro generation settings runId suites s result hfail h
  obtain ⟨f, own, s', -, hy⟩ | ⟨sessions, rest, durationMs, s', hr, hsuites, -, hy⟩ :=
    batch_cases tools generation settings runId suites s
  · rw [hy.value] at h
    cases h
  have hresult := hy.value.symm.trans h
  injection hresult with hresult
  refine ⟨sessions, s', hr, ?_⟩
  rw [← hresult, hr.success_iff hsuites]
  simp only [passes_iff_of_launchFailed hfail]

/-- A host on which no program is installed. -/
def emptyHost : Host Nat where
  run _ _ _ := pure (.unlaunched (.errno .noEntry))
  query _ _ := pure .failed

/-- The sample tools with an interpreter that is not installed. -/
def unlaunchedTools : Tools Nat :=
  { sampleTools (.exited 0) with
    interpret := (Installed.interpreter (.ofText "lli") {}).interpret emptyHost [] }

/-- A site with the text of an artifact and its reference binary. -/
def wholeSite : Site Nat := sampleSite ["a.bc", "a.out.ll"]

/-- The artifact is discovered. -/
theorem found_whole : found sampleRoot wholeSite = [sampleArtifact "a"] :=
  (found_sample (by decide +kernel)).trans (by decide +kernel)

/-- What is found out about it with an interpreter that is not installed. -/
theorem verify_whole : ((verify unlaunchedTools sampleRoot).run wholeSite).value =
    .ok ⟨[(sampleArtifact "a").text], [], false⟩ := by
  rw [(verify_yields found_whole (.intro _ _)).value]
  rfl

/-- With an interpreter that is not installed, a run over the directory is a success. -/
theorem batch_whole : ∃ result,
    ((batch unlaunchedTools .llvm38 {} "run" [("whole", .unnamed sampleRoot)]).run
      wholeSite).value = .ok result ∧ result.success = true := by
  have hv : Yields (verify unlaunchedTools sampleRoot) wholeSite
      (.ok ⟨[(sampleArtifact "a").text], [], false⟩) _ _ := ⟨verify_whole, rfl, rfl⟩
  have hp : Answers (unlaunchedTools.prepare "whole" (.unnamed sampleRoot) sampleRoot) wholeSite
      .skipped wholeSite := ⟨rfl, rfl⟩
  obtain ⟨result, -, hresult, -, -, -, hsuccess⟩ := batch_of_verify .llvm38 "run" rfl hp hv
  exact ⟨result, hresult, hsuccess⟩

/-- An artifact passes and a run is a success although nothing is ever launched. -/
theorem pass_needs_no_launch :
    (¬ ∀ (tools : Tools Nat) (a : Artifact) (s : Site Nat) (ending : Ending),
      ((examine tools a).run s).value = .ok (.passed ending) → ending ≠ .launchFailed) ∧
    ¬ ∀ (tools : Tools Nat) (suites : List (String × Suite)) (s : Site Nat) (result : RunResult),
      (∀ path w, ((tools.interpret path).run w).value = .launchFailed) →
      ((batch tools .llvm38 {} "run" suites).run s).value = .ok result →
      result.success = false := by
  constructor
  · intro h
    exact h unlaunchedTools (sampleArtifact "a") wholeSite .launchFailed rfl rfl
  · intro h
    obtain ⟨result, hr, hs⟩ := batch_whole
    rw [h unlaunchedTools _ _ result (fun _ _ => rfl) hr] at hs
    cases hs

theorem passed_unlaunched_iff_sample :
    ∃ result sessions s',
      ((batch unlaunchedTools .llvm38 {} "run" [("whole", .unnamed sampleRoot)]).run
        wholeSite).value = .ok result ∧
      Sessions unlaunchedTools {} wholeSite sessions s' ∧
      sessions.map Session.request = [("whole", .unnamed sampleRoot)] ∧
      ∀ x ∈ sessions, x.found {} ≠ [] := by
  obtain ⟨result, hr, hs⟩ := batch_whole
  obtain ⟨-, hrun, -⟩ := passed_unlaunched_iff unlaunchedTools
  obtain ⟨sessions, s', hsessions, h⟩ := hrun .llvm38 {} "run" _ _ result (fun _ _ => rfl) hr
  obtain ⟨hall, hfound⟩ := h.1 hs
  exact ⟨result, sessions, s', hr, hsessions, hall, fun x hx => (hfound x hx).1⟩

end Run

end RoundTrip

import RoundTrip.Proofs.Batch.Cancellation
import RoundTrip.Proofs.Batch.Unlaunched

/-!
# What it takes to be called empty

A verdict is made of a tally, which does not say how many artifacts were found. It is `empty` where
no artifact was examined (`Verdict.kindOf_eq_empty_iff`), and a walk examines none where none is
found or where the run is cancelled before it (`Run.Walk.eq_nil_iff`). `empty_iff` says so of every
verification and of every entry of a run over suites, and when a verdict is `cancelled`.

So a directory with artifacts may be called empty: a tool that prepares the corpus may ask for the
run to be cancelled, and then the directory is searched and nothing in it is examined
(`empty_not_unfound`).
-/

namespace RoundTrip

namespace Verdict

/-- A verdict is that there is nothing just if no artifact was examined. -/
theorem kindOf_eq_empty_iff (t : Tally) : kindOf t = .empty ↔ t.total = 0 := by
  rw [kindOf]
  split
  · next hfailed =>
    have hpos : 0 < t.failed.length := List.length_pos_iff.2 hfailed
    refine ⟨fun h => (by cases h), fun h => ?_⟩
    rw [Tally.total] at h
    omega
  · split
    · next htotal => exact ⟨fun _ => htotal, fun _ => rfl⟩
    · next htotal =>
      refine ⟨fun h => ?_, fun h => absurd h htotal⟩
      split at h <;> cases h

/-- A verdict is that the walk was cancelled just if it was, behind an artifact, and none fails. -/
theorem kindOf_eq_cancelled_iff (t : Tally) :
    kindOf t = .cancelled ↔ t.cancelled = true ∧ t.failed = [] ∧ t.total ≠ 0 := by
  rw [kindOf]
  split
  · next hfailed => exact ⟨fun h => (by cases h), fun h => absurd h.2.1 hfailed⟩
  · next hfailed =>
    have hfailed : t.failed = [] := not_not.1 hfailed
    split
    · next htotal => exact ⟨fun h => (by cases h), fun h => absurd htotal h.2.2⟩
    · next htotal =>
      split
      · next hcancelled => exact ⟨fun _ => ⟨hcancelled, hfailed, htotal⟩, fun _ => rfl⟩
      · next hcancelled => exact ⟨fun h => (by cases h), fun h => absurd h.1 hcancelled⟩

/-- The first line of the summary of a suite in which there is nothing. -/
def oddMessage : String := "There is something odd with the testsuite, 0 Tests executed!"

/-- The first line says that there is something odd just if the verdict is that there is nothing. -/
theorem messageOf_eq_oddMessage_iff (t : Tally) :
    messageOf t = oddMessage ↔ kindOf t = .empty := by
  rw [messageOf]
  cases hkind : kindOf t with
  | empty => simp [oddMessage, (kindOf_eq_empty_iff t).1 hkind]; decide +kernel
  | failed | cancelled | passed =>
    refine ⟨fun h => ?_, fun h => (by cases h)⟩
    -- the lines differ in their first letters
    have hfirst := congrArg (·.toList.head?) h
    simp [oddMessage] at hfirst

end Verdict

namespace Run

variable {μ : Type} {tools : Tools μ} {settings : Settings} {s s' : Site μ}

/-- A walk that examines nothing stays where it is. -/
theorem Walk.of_nil (hw : Walk tools s [] s') : s' = s := by
  cases hw
  rfl

/-- A walk examines nothing just if nothing is found or the run is cancelled before it. -/
theorem Walk.eq_nil_iff {visits : List (Visit μ)} {artifacts : List Artifact}
    (hw : Walk tools s visits s') (hprocessed : visits.map (·.artifact) <+: artifacts)
    (hcancelled : visits.length < artifacts.length → s'.cancelled = true) :
    visits = [] ↔ artifacts = [] ∨ s.cancelled = true := by
  constructor
  · rintro rfl
    by_cases hfound : artifacts = []
    · exact .inl hfound
    · obtain rfl := hw.of_nil
      exact .inr (hcancelled (List.length_pos_iff.2 hfound))
  · rintro (rfl | hs)
    · exact List.map_eq_nil_iff.1 (List.prefix_nil.1 hprocessed)
    · cases hw with
      | nil => rfl
      | cons hbefore => cases hbefore.symm.trans hs

/-- What the verdict about some visits to the artifacts that were found is, where some may be left
out because the run was cancelled. -/
theorem Walk.kind_iff {visits : List (Visit μ)} {artifacts : List Artifact} {interrupted : Bool}
    (hw : Walk tools s visits s') (hprocessed : visits.map (·.artifact) <+: artifacts)
    (hinterrupted : interrupted = true ↔ visits.length < artifacts.length)
    (hcancelled : interrupted = true → s'.cancelled = true) :
    let t := ({} : Tally).addVisits visits interrupted
    (Verdict.kindOf t = .empty ↔ artifacts = [] ∨ s.cancelled = true) ∧
      (Verdict.kindOf t = .cancelled ↔
        interrupted = true ∧ t.failed = [] ∧ s.cancelled = false) := by
  have hnil := hw.eq_nil_iff hprocessed fun h => hcancelled (hinterrupted.2 h)
  constructor
  · rw [Verdict.kindOf_eq_empty_iff, Tally.total_addVisits, List.length_eq_zero_iff]
    exact hnil
  · rw [Verdict.kindOf_eq_cancelled_iff, Tally.total_addVisits, Ne, List.length_eq_zero_iff, hnil]
    refine and_congr_right fun h => and_congr_right fun _ => ?_
    -- something was found, since something was left out
    have hfound : artifacts ≠ [] := by
      have hlt := hinterrupted.1 h
      exact List.length_pos_iff.1 (by omega)
    simp [hfound]

end Run

/-- The verdict about a session. -/
theorem Session.Held.kind_iff {μ : Type} {tools : Tools μ} {settings : Settings} {x : Session μ}
    (h : x.Held tools settings) :
    (x.verdict.kind = .empty ↔ x.found settings = [] ∨ x.opened.cancelled = true) ∧
      (x.verdict.kind = .cancelled ↔
        x.skipped settings ≠ [] ∧ x.tally.failed = [] ∧ x.opened.cancelled = false) := by
  have hkind := h.walked.kind_iff h.processed h.interrupted_iff h.cancelled
  rw [h.interrupted_iff_skipped] at hkind
  exact hkind

namespace Run

variable {μ : Type}

/-- The verdict about a verification that comes to its end. -/
theorem verify_kind_iff {tools : Tools μ} {root : Path} {s : Site μ} {tally : Tally}
    (h : ((verify tools root).run s).value = .ok tally) :
    ((Verdict.ofTally tally).kind = .empty ↔ found root s = [] ∨ s.cancelled = true) ∧
      ((Verdict.ofTally tally).kind = .cancelled ↔
        tally.cancelled = true ∧ tally.failed = [] ∧ s.cancelled = false) := by
  obtain ⟨_, _, _, -, hy⟩ | ⟨visits, rest, s₁, c, own, hw, hh, hfound, hy⟩ :=
    verify_cases tools root s
  · cases hy.value.symm.trans h
  · obtain rfl := Except.ok.inj (hy.value.symm.trans h)
    have hinterrupted : c = true ↔ visits.length < (found root s).length := by
      rw [hh.interrupted_iff.1, hfound, List.length_append, List.length_map, Ne,
        ← List.length_eq_zero_iff]
      omega
    exact hw.kind_iff ⟨rest, hfound.symm⟩ hinterrupted hh.interrupted_iff.2

/-- When a verdict is that there is nothing, and when it is that the walk was cancelled. In every
verification and in every entry of a run over suites, it is the first just if no artifact was found
in the directory or the run was cancelled before the first of them, and its message says so; it is
the second just if artifacts were left out, none of the others fails, and the run was not cancelled
before the first of them. -/
theorem empty_iff (tools : Tools μ) :
    (∀ (root : Path) (s : Site μ) (tally : Tally),
      ((verify tools root).run s).value = .ok tally →
      let verdict := Verdict.ofTally tally
      (verdict.kind = .empty ↔ found root s = [] ∨ s.cancelled = true) ∧
      (verdict.message = Verdict.oddMessage ↔ verdict.kind = .empty) ∧
      (verdict.kind = .cancelled ↔
        tally.cancelled = true ∧ tally.failed = [] ∧ s.cancelled = false)) ∧
    ∀ (generation : Generation) (settings : Settings) (runId : String)
      (suites : List (String × Suite)) (s : Site μ) (result : RunResult),
      ((batch tools generation settings runId suites).run s).value = .ok result →
      ∃ sessions s', Sessions tools settings s sessions s' ∧
        sessions.map Session.request <+: suites ∧
        result.suites = sessions.map (·.entry settings) ∧
        ∀ x ∈ sessions,
          let verdict := (x.entry settings).verdict
          (verdict.kind = .empty ↔ x.found settings = [] ∨ x.opened.cancelled = true) ∧
          (verdict.message = Verdict.oddMessage ↔ verdict.kind = .empty) ∧
          (verdict.kind = .cancelled ↔ x.skipped settings ≠ [] ∧
            (x.entry settings).failedArtifacts = [] ∧ x.opened.cancelled = false) := by
  constructor
  · intro root s tally h
    obtain ⟨hempty, hcancelled⟩ := verify_kind_iff h
    exact ⟨hempty, Verdict.messageOf_eq_oddMessage_iff tally, hcancelled⟩
  · intro generation settings runId suites s result h
    obtain ⟨sessions, rest, _, s', hr, hsuites, rfl, -⟩ := batch_sessions h
    refine ⟨sessions, s', hr, ⟨rest, hsuites.symm⟩, ?_, fun x hx => ?_⟩
    · simp [Ledger.result, Ledger.addSessions]
    · obtain ⟨hempty, hcancelled⟩ := (hr.held x hx).kind_iff
      exact ⟨hempty, Verdict.messageOf_eq_oddMessage_iff x.tally, hcancelled⟩

/-- The site with an artifact, where the run is cancelled. -/
def cancelledSite : Site Nat := { wholeSite with cancelled := true }

/-- There the artifact is found and, whatever the tools are, not examined. -/
theorem verify_cancelled (tools : Tools Nat) :
    ((verify tools sampleRoot).run cancelledSite).value = .ok { cancelled := true } := by
  have hfound : found sampleRoot cancelledSite = [sampleArtifact "a"] := found_whole
  rw [(verify_yields hfound (.intro _ _)).value]
  rfl

/-- Tools that ask for the run to be cancelled while the first corpus is prepared. -/
def stoppingTools : Tools Nat :=
  { sampleTools (.exited 3) with
    prepare := fun _ _ _ => do
      Act.emit .cancel
      pure .prepared }

/-- A run over the directory that a tool cancels while it prepares the corpus has one session, in
which the artifact is found behind the preparation. -/
theorem batch_cancelled_early : ∃ (result : RunResult) (x : Session Nat),
    ((batch stoppingTools .llvm38 {} "run" [("whole", .unnamed sampleRoot)]).run
      wholeSite).value = .ok result ∧
    x.before = wholeSite ∧ x.Held stoppingTools {} ∧ result.suites = [x.entry {}] ∧
    x.opened.cancelled = true ∧ x.found {} = [sampleArtifact "a"] := by
  obtain ⟨f, _, _, hfail, -⟩ | ⟨x, hbefore, hrequest, hx, hy⟩ :=
    runSuite_cases (s := wholeSite) stoppingTools {} "whole" (.unnamed sampleRoot) rfl
  · exact absurd hfail (not_fails_sampleTools (.exited 3) f)
  obtain ⟨result, hresult, hsuites, -⟩ := batch_of_runSuite .llvm38 "run" rfl hy
  have hopened : x.opened = cancelledSite := by
    rw [← hx.prepared.2, hbefore]
    rfl
  have hsuite : x.suite = .unnamed sampleRoot := congrArg Prod.snd hrequest
  refine ⟨result, x, hresult, hbefore, hx, hsuites, by rw [hopened]; rfl, ?_⟩
  rw [Session.found, Session.dir, hsuite, hopened]
  exact found_whole

/-- A directory in which an artifact is found is called empty, where it should be said that the walk
was cancelled: in a verification that is cancelled before it begins, and in a run that is cancelled
while the corpus is prepared. -/
theorem empty_not_unfound :
    (¬ ∀ (tools : Tools Nat) (root : Path) (s : Site Nat) (tally : Tally),
      ((verify tools root).run s).value = .ok tally →
      ((Verdict.ofTally tally).kind = .empty ↔ found root s = []) ∧
      (tally.cancelled = true → tally.failed = [] → (Verdict.ofTally tally).kind = .cancelled)) ∧
    ¬ ∀ (tools : Tools Nat) (suites : List (String × Suite)) (s : Site Nat) (result : RunResult),
      ((batch tools .llvm38 {} "run" suites).run s).value = .ok result →
      ∀ sessions s', Sessions tools {} s sessions s' →
        result.suites = sessions.map (·.entry {}) →
        ∀ x ∈ sessions, (x.entry {}).verdict.kind = .empty ↔ x.found {} = [] := by
  constructor
  · intro h
    obtain ⟨-, hcancelled⟩ := h _ _ _ _ (verify_cancelled unlaunchedTools)
    cases hcancelled rfl rfl
  · intro h
    obtain ⟨result, x, hresult, hbefore, hx, hsuites, hcancelled, hfound⟩ := batch_cancelled_early
    have hone : Sessions stoppingTools {} wholeSite [x] (x.left stoppingTools) :=
      hbefore ▸ .cons hx .nil
    have hiff := h _ _ _ _ hresult [x] _ hone hsuites x (List.mem_singleton_self x)
    rw [hfound] at hiff
    cases hiff.1 (hx.kind_iff.1.2 (.inr hcancelled))

theorem empty_iff_sample :
    (∃ tally, ((verify stoppingTools sampleRoot).run cancelledSite).value = .ok tally ∧
      found sampleRoot cancelledSite ≠ [] ∧ (Verdict.ofTally tally).kind = .empty ∧
      (Verdict.ofTally tally).message = Verdict.oddMessage) ∧
    ∃ result sessions s',
      ((batch stoppingTools .llvm38 {} "run" [("whole", .unnamed sampleRoot)]).run
        wholeSite).value = .ok result ∧
      Sessions stoppingTools {} wholeSite sessions s' ∧
      ∀ x ∈ sessions, (x.entry {}).verdict.kind = .empty ↔
        x.found {} = [] ∨ x.opened.cancelled = true := by
  obtain ⟨hverify, hbatch⟩ := empty_iff stoppingTools
  constructor
  · obtain ⟨hempty, hmessage, -⟩ := hverify _ _ _ (verify_cancelled stoppingTools)
    have hfound : found sampleRoot cancelledSite = [sampleArtifact "a"] := found_whole
    have hkind := hempty.2 (.inr rfl)
    exact ⟨_, verify_cancelled stoppingTools, by rw [hfound]; simp, hkind, hmessage.2 hkind⟩
  · obtain ⟨result, _, hresult, -⟩ := batch_cancelled_early
    obtain ⟨sessions, s', hr, -, -, hkinds⟩ := hbatch _ _ _ _ _ _ hresult
    exact ⟨result, sessions, s', hresult, hr, fun x hx => (hkinds x hx).1⟩

end Run

end RoundTrip

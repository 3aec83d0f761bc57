import Mathlib.Data.List.Basic
import RoundTrip.Proofs.Batch.Session
import RoundTrip.Proofs.Run.Heeding

/-!
# Runs that are cancelled

A run over suites may be cancelled before it begins, and by any call of a tool. It heeds the flag
(`batch_heeds`), and its steps are those of its sessions, so all that it still does when a tool has
asked is to complete the artifact that is being examined and to end the suite that it belongs to
(`Session.closing`). Only the last session can be interrupted (`Sessions.not_interrupted`), because
the one behind it would begin in a site that is cancelled. `batch_cancelled` says what a run that
gives a result has left out and what it notes about it.
-/

namespace RoundTrip

namespace Event

/-- How many artifacts are noted to be left. -/
def remaining? : Event → Option Nat
  | .noted (.interrupted n) => some n
  | _ => none

/-- Steps are no notes. -/
theorem filterMap_remaining?_of_isStep {events : List Event}
    (h : events.filter isStep = events) : events.filterMap remaining? = [] := by
  rw [← h, List.filterMap_filter]
  refine List.filterMap_eq_nil_iff.2 fun e _ => ?_
  cases e <;> rfl

/-- The remarks of tools are no notes of the run. -/
theorem filterMap_remaining?_filter_isOwn (events : List Event) :
    (events.filter isOwn).filterMap remaining? = events.filterMap remaining? := by
  rw [List.filterMap_filter]
  refine List.filterMap_congr fun e _ => ?_
  cases e <;> rfl

end Event

/-! ## Artifacts that are left out -/

namespace Session

variable {μ : Type} {tools : Tools μ} {settings : Settings} {x : Session μ}

/-- The artifacts that a session found and left out. -/
def skipped (settings : Settings) (x : Session μ) : List Artifact :=
  (x.found settings).drop x.visits.length

/-- What a session found are the artifacts that it examined and those that it left out. -/
theorem Held.append_skipped (h : x.Held tools settings) :
    x.visits.map (·.artifact) ++ x.skipped settings = x.found settings := by
  obtain ⟨rest, hrest⟩ := h.processed
  rw [skipped, ← hrest, List.drop_left' (List.length_map ..)]

/-- No artifact that a session found is counted twice, and none is missing. -/
theorem Held.total_add_skipped (h : x.Held tools settings) :
    x.tally.total + (x.skipped settings).length = (x.found settings).length := by
  rw [tally, Tally.total_addVisits, ← h.append_skipped, List.length_append, List.length_map]

/-- A session is interrupted just if it left artifacts out. -/
theorem Held.interrupted_iff_skipped (h : x.Held tools settings) :
    x.interrupted = true ↔ x.skipped settings ≠ [] := by
  rw [h.interrupted_iff, skipped, Ne, List.drop_eq_nil_iff, Nat.not_le]

/-- What is still to be done for the suite when the last artifact is being examined. -/
def closing (x : Session μ) : List Event :=
  (x.visits.getLast?.elim [] fun v => v.steps.tail) ++ [.marksEnded, .summarized x.name x.verdict]

end Session

namespace Run

variable {μ : Type} {tools : Tools μ} {settings : Settings} {s s' : Site μ}

/-- An examination begins with the call of the assembler. -/
theorem Examination.exists_calls {a : Artifact} {f : Finding} {calls : List Event}
    (h : Examination tools a s f calls s') : ∃ rest, calls = .assembling a.text :: rest := by
  cases h <;> exact ⟨_, rfl⟩

/-- Nothing before the first artifact is a note about what is left. -/
theorem filterMap_remaining?_opening (root : Path) (s : Site μ) :
    (opening root s).filterMap Event.remaining? = [] := by
  have hsurveyed : ((surveyed root s).map Event.noted).filterMap Event.remaining? = [] := by
    rw [List.filterMap_map, surveyed]
    split
    · rw [List.filterMap_filterMap, List.filterMap_eq_nil_iff]
      intro f _
      cases f.refusal? root <;> rfl
    · rfl
  simp only [opening, List.filterMap_append, List.filterMap_cons, hsurveyed]
  rfl

/-- Nothing of a walk is a note about what is left. -/
theorem Walk.filterMap_remaining? {visits : List (Visit μ)} (hw : Walk tools s visits s') :
    (visits.flatMap Visit.own).filterMap Event.remaining? = [] := by
  induction hw with
  | nil => rfl
  | @cons v visits s' _ he _ ih =>
    have hcalls := Event.filterMap_remaining?_of_isStep he.filter_isStep
    have hnotes : (v.finding.notes v.artifact).filterMap Event.remaining? = [] := by
      match v.finding with
      | .failed (.rejected _) | .failed .referenceMissing | .failed (.endingsDiffer ..)
      | .passed _ => rfl
    simp only [List.flatMap_cons, Visit.own, List.filterMap_append, List.filterMap_cons, ih, hcalls,
      hnotes]
    rfl

/-- A session notes how many artifacts it left out, if there are any. -/
theorem filterMap_remaining?_own {x : Session μ} (h : x.Held tools settings) :
    (x.own settings).filterMap Event.remaining? =
      [(x.skipped settings).length].filter (· ≠ 0) := by
  have hcorpus : (x.corpus.notes x.name).filterMap Event.remaining? = [] := by
    cases x.corpus <;> rfl
  have hleft : (if x.interrupted then
      [Event.noted (.interrupted ((x.found settings).length - x.visits.length))]
      else []).filterMap Event.remaining? = [(x.skipped settings).length].filter (· ≠ 0) := by
    rw [← List.length_drop, ← Session.skipped]
    cases hint : x.interrupted with
    | true =>
      have hskipped : (x.skipped settings).length ≠ 0 := by
        simpa using h.interrupted_iff_skipped.1 hint
      rw [List.filter_cons_of_pos (by simpa using hskipped)]
      rfl
    | false =>
      have hskipped : x.skipped settings = [] := by
        simpa using mt h.interrupted_iff_skipped.2 (by simp [hint])
      rw [hskipped]
      rfl
  simp only [Session.own, List.cons_append, List.filterMap_append, List.filterMap_cons, hcorpus,
    hleft, filterMap_remaining?_opening, h.walked.filterMap_remaining?]
  simp [Event.remaining?]

/-- The counts that a run notes are those of the artifacts that its sessions left out. -/
theorem Sessions.filterMap_remaining? {sessions : List (Session μ)}
    (h : Sessions tools settings s sessions s') :
    (sessions.flatMap (Session.own settings)).filterMap Event.remaining? =
      (sessions.map fun x => (x.skipped settings).length).filter (· ≠ 0) := by
  induction h with
  | nil => rfl
  | @cons x sessions s' hx _ ih =>
    rw [List.flatMap_cons, List.filterMap_append, ih, filterMap_remaining?_own hx, List.map_cons,
      ← List.filter_append, List.singleton_append]

/-! ## The last session -/

/-- Only the last session is interrupted. -/
theorem Sessions.not_interrupted {sessions : List (Session μ)}
    (h : Sessions tools settings s sessions s') :
    ∀ x ∈ sessions.dropLast, x.interrupted = false := by
  induction h with
  | nil => simp
  | @cons x sessions s' hx hrest ih =>
    cases sessions with
    | nil => simp
    | cons y rest =>
      rw [List.dropLast_cons_of_ne_nil (by simp)]
      refine List.forall_mem_cons.2 ⟨?_, ih⟩
      -- the next session begins where this one has left, and not in a site that is cancelled
      obtain ⟨hbefore, hy⟩ := hrest.head
      rw [← Bool.not_eq_true]
      intro hint
      have hstarted := hy.started
      rw [hbefore, cancelled_left hx hint] at hstarted
      cases hstarted

/-- Only the last session leaves artifacts out. -/
theorem Sessions.skipped_eq_nil {sessions : List (Session μ)}
    (h : Sessions tools settings s sessions s') {x : Session μ} (hx : x ∈ sessions.dropLast) :
    x.skipped settings = [] := by
  have hheld := h.held x (List.dropLast_subset _ hx)
  have hinterrupted : ¬ x.interrupted = true := by simp [h.not_interrupted x hx]
  exact not_not.1 (mt hheld.interrupted_iff_skipped.2 hinterrupted)

/-- The steps of a session up to its last start, and those behind it. -/
theorem exists_steps_eq {x : Session μ} (h : x.Held tools settings) :
    ∃ front start, start.isStart = true ∧ x.steps settings = front ++ start :: x.closing := by
  obtain hnil | ⟨visits, v, hv⟩ := x.visits.eq_nil_or_concat'
  · refine ⟨[], .preparing x.name (x.dir settings), rfl, ?_⟩
    simp [Session.steps, Session.closing, hnil]
  · obtain ⟨rest, hcalls⟩ := (h.walked.examination (v := v) (by simp [hv])).exists_calls
    refine ⟨.preparing x.name (x.dir settings) :: visits.flatMap Visit.steps,
      .assembling v.artifact.text, rfl, ?_⟩
    simp [Session.steps, Session.closing, hv, Visit.steps, hcalls]

/-- Steps at the end of a run among which nothing is started belong to the last session, and to the
last artifact of it. -/
theorem Sessions.suffix_closing {sessions : List (Session μ)} {back : List Event}
    (h : Sessions tools settings s sessions s')
    (hback : back <:+ sessions.flatMap (Session.steps settings))
    (hquiet : ∀ e ∈ back, e.isStart = false) :
    back <:+ sessions.getLast?.elim [] Session.closing := by
  obtain rfl | ⟨init, x, rfl⟩ := sessions.eq_nil_or_concat'
  · exact hback
  · obtain ⟨front, start, hstart, hsteps⟩ := exists_steps_eq (h.held x (by simp))
    have hsplit : (init ++ [x]).flatMap (Session.steps settings) =
        (init.flatMap (Session.steps settings) ++ front) ++ start :: x.closing := by
      simp [hsteps]
    rw [hsplit] at hback
    have hnot : start ∉ back := fun hmem => by simp [hquiet start hmem] at hstart
    rw [List.getLast?_concat]
    -- of two suffixes one is a suffix of the other, and only one holds the start
    obtain hshort | hlong := List.suffix_or_suffix_of_suffix hback (List.suffix_append ..)
    · refine (List.suffix_cons_iff.1 hshort).resolve_left fun heq => hnot ?_
      rw [heq]
      exact List.mem_cons_self ..
    · exact absurd (hlong.mem (List.mem_cons_self ..)) hnot

/-! ## Runs -/

/-- What a run that gives a result was cancelled for: suites that it did not start, or artifacts
that a session left out. -/
theorem Sessions.result_cancelled_iff {sessions : List (Session μ)}
    {suites rest : List (String × Suite)} {runId : String} {durationMs : Nat}
    (h : Sessions tools settings s sessions s')
    (hsuites : suites = sessions.map Session.request ++ rest) :
    ((({} : Ledger).addSessions settings sessions (!rest.isEmpty)).result runId suites.length
        durationMs).cancelled = true ↔
      sessions.length < suites.length ∨ ∃ x ∈ sessions, x.skipped settings ≠ [] := by
  have hskipped : (∃ x ∈ sessions, x.interrupted = true) ↔
      ∃ x ∈ sessions, x.skipped settings ≠ [] :=
    exists_congr fun x => and_congr_right fun hx => (h.held x hx).interrupted_iff_skipped
  have hrest : sessions.length < suites.length ↔ rest ≠ [] := by
    rw [hsuites, List.length_append, List.length_map, ← List.length_pos_iff]
    omega
  rw [← hskipped, hrest]
  simp [Ledger.result, Ledger.addSessions, or_comm]

/-- How a run that gives a result is cancelled. The flag is set behind it just if it was set before
it or a tool asked for it. If it was set before, no suite was started. When a tool asks, no artifact
and no suite is started any more, and of the steps at most those are left that complete the last
artifact and end its suite. Each session examined the first of the artifacts that it found, and only
the last may have left some out. The run counts as cancelled just if suites of the request were not
started or artifacts were left out; then the flag is set behind it, and it is no success. What is
noted about artifacts that are left is how many each session left out, if any. -/
theorem batch_cancelled {generation : Generation} {runId : String}
    {suites : List (String × Suite)} {result : RunResult}
    (h : ((batch tools generation settings runId suites).run s).value = .ok result) :
    let out := (batch tools generation settings runId suites).run s
    out.state.cancelled = (s.cancelled || out.events.any Event.isCancel) ∧
    ∃ sessions s', Sessions tools settings s sessions s' ∧
      sessions.map Session.request <+: suites ∧
      result.suites = sessions.map (·.entry settings) ∧
      out.events.filter Event.isStep = sessions.flatMap (Session.steps settings) ∧
      (s.cancelled = true → sessions = []) ∧
      (∀ front e back, out.events = front ++ e :: back → e.isCancel = true →
        (∀ later ∈ back, later.isStart = false) ∧
        back.filter Event.isStep <:+ sessions.getLast?.elim [] Session.closing) ∧
      (∀ x ∈ sessions, x.visits.map (·.artifact) ++ x.skipped settings = x.found settings ∧
        x.tally.total + (x.skipped settings).length = (x.found settings).length) ∧
      (∀ x ∈ sessions.dropLast, x.skipped settings = []) ∧
      (result.cancelled = true ↔
        sessions.length < suites.length ∨ ∃ x ∈ sessions, x.skipped settings ≠ []) ∧
      (result.cancelled = true → out.state.cancelled = true) ∧
      out.events.filterMap Event.remaining? =
        (sessions.map fun x => (x.skipped settings).length).filter (· ≠ 0) ∧
      (result.success = true → result.cancelled = false) := by
  have hheeds : Heeds (batch tools generation settings runId suites) s := batch_heeds ..
  obtain ⟨sessions, rest, durationMs, s', hr, hsuites, rfl, hown, hstate, hstop⟩ :=
    batch_sessions h
  have hsteps : ((batch tools generation settings runId suites).run s).events.filter Event.isStep =
      sessions.flatMap (Session.steps settings) := by
    rw [← Event.filter_isStep_filter_isOwn, hown]
    simp [hr.filter_isStep, Event.isStep]
  refine ⟨hheeds.flag, sessions, s', hr, ⟨rest, hsuites.symm⟩, ?_, hsteps, hr.eq_nil,
    fun front e back hsplit he => ?_,
    fun x hx => ⟨(hr.held x hx).append_skipped, (hr.held x hx).total_add_skipped⟩,
    fun x hx => hr.skipped_eq_nil hx, hr.result_cancelled_iff hsuites, fun hcancelled => ?_, ?_, ?_⟩
  · simp [Ledger.result, Ledger.addSessions]
  · -- what is behind the remark is the end of the steps, and nothing is started in it
    have hquiet := hheeds.not_isStart_behind hsplit he
    have hback : back.filter Event.isStep <:+ sessions.flatMap (Session.steps settings) := by
      rw [← hsteps, hsplit]
      exact ((List.suffix_cons e back).trans (List.suffix_append front _)).filter _
    exact ⟨hquiet, hr.suffix_closing hback fun later hlater =>
      hquiet later (List.mem_of_mem_filter hlater)⟩
  · -- a flag that is not set behind the run has it leave nothing out
    rw [hstate, ← Bool.not_eq_false]
    intro hflag
    have hrequest := eq_of_not_cancelled hsuites hstop hflag
    obtain hleft | ⟨x, hx, hskipped⟩ := (hr.result_cancelled_iff hsuites).1 hcancelled
    · rw [← hrequest, List.length_map] at hleft
      exact Nat.lt_irrefl _ hleft
    · have hall := hr.complete hflag x hx
      rw [Session.skipped, ← hall, List.drop_of_length_le (by simp)] at hskipped
      exact hskipped rfl
  · rw [← Event.filterMap_remaining?_filter_isOwn, hown]
    simp only [List.cons_append, List.filterMap_append, List.filterMap_cons,
      hr.filterMap_remaining?]
    simp [Event.remaining?]
  · simp +contextual [Ledger.result]

/-- The sample tools with an interpreter that asks for the run to be cancelled. -/
def interruptingTools : Tools Nat :=
  { sampleTools (.exited 3) with
    interpret := fun _ => do
      Act.emit .cancel
      pure (.exited 3) }

/-- A site with two artifacts. -/
def pairSite : Site Nat := sampleSite ["a.bc", "a.out.ll", "b.out.ll"]

/-- A request of their directory and of a directory that is not there. -/
def pairRequest : List (String × Suite) :=
  [("pair", .unnamed sampleRoot), ("missing", .unnamed (.ofText "/e"))]

/-- The first artifact is completed, and the second is left out, as is the second suite. -/
theorem batch_interrupted :
    let out := (batch interruptingTools .llvm38 {} "run" pairRequest).run pairSite
    ∃ result entry, out.value = .ok result ∧ out.state.cancelled = true ∧
      result.suites = [entry] ∧ entry.verdict.total = 1 := by
  have hp : Answers (interruptingTools.prepare "pair" (.unnamed sampleRoot) sampleRoot) pairSite
      .skipped pairSite := ⟨rfl, rfl⟩
  have hv : Yields (verify interruptingTools sampleRoot) pairSite
      (.ok ⟨[(sampleArtifact "a").text], [], true⟩) _ _ :=
    verify_yields found_halfSample (.intro _ _)
  have hbatch : Yields (batch interruptingTools .llvm38 {} "run" pairRequest) pairSite _ _ _ :=
    batch_yields (runEachSuite_yields rfl (runSuite_yields hp hv) ⟨rfl, rfl, rfl⟩)
  exact ⟨_, _, hbatch.value, by rw [hbatch.state]; rfl, rfl, rfl⟩

/-- The interpreter asks, and behind that nothing is started. The second artifact is left out, and
it is noted that one is left. -/
theorem batch_cancelled_sample :
    let out := (batch interruptingTools .llvm38 {} "run" pairRequest).run pairSite
    ∃ result x s', out.value = .ok result ∧ out.events.any Event.isCancel = true ∧
      Sessions interruptingTools {} pairSite [x] s' ∧
      x.visits.map (·.artifact) = [sampleArtifact "a"] ∧ x.skipped {} = [sampleArtifact "b"] ∧
      result.cancelled = true ∧ result.success = false ∧
      out.events.filterMap Event.remaining? = [1] ∧
      ∀ front e back, out.events = front ++ e :: back → e.isCancel = true →
        (∀ later ∈ back, later.isStart = false) ∧ back.filter Event.isStep <:+ x.closing := by
  obtain ⟨result, entry, hresult, hflag, hentry, htotal⟩ := batch_interrupted
  obtain ⟨hasked, sessions, s', hr, hp, hsuites, -, -, hbehind, hexact, -, hcancelled, -, hleft,
    hsuccess⟩ := batch_cancelled hresult
  obtain ⟨x, rfl, hx⟩ := List.map_eq_singleton_iff.1 (hsuites.symm.trans hentry)
  obtain ⟨hbefore, hheld⟩ := hr.head
  have hsuite : x.suite = .unnamed sampleRoot :=
    congrArg Prod.snd (List.cons_prefix_cons.1 hp).1
  have hopened : x.opened = pairSite := by
    rw [← hheld.prepared.2, hbefore]
    rfl
  have hfound : x.found {} = [sampleArtifact "a", sampleArtifact "b"] := by
    rw [Session.found, Session.dir, hsuite, hopened]
    exact found_halfSample
  have hone : x.visits.length = 1 := by
    rw [← Tally.total_addVisits x.visits x.interrupted, ← htotal, ← hx]
    rfl
  have hskipped : x.skipped {} = [sampleArtifact "b"] := by
    rw [Session.skipped, hone, hfound]
    rfl
  have hvisited : x.visits.map (·.artifact) = [sampleArtifact "a"] := by
    have happend := (hexact x (List.mem_singleton_self x)).1
    rw [hskipped, hfound] at happend
    exact List.append_cancel_right (happend.trans rfl)
  have hstopped : result.cancelled = true :=
    hcancelled.2 (.inr ⟨x, List.mem_singleton_self x, by simp [hskipped]⟩)
  refine ⟨result, x, s', hresult, hasked.symm.trans hflag, hr, hvisited, hskipped, hstopped, ?_, ?_,
    hbehind⟩
  · rw [← Bool.not_eq_true]
    intro hs
    cases hstopped.symm.trans (hsuccess hs)
  · rw [hleft, List.map_singleton, hskipped]
    rfl

end Run

end RoundTrip

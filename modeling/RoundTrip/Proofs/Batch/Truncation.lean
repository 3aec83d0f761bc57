import RoundTrip.Proofs.Batch.Lifecycle
import RoundTrip.Proofs.Batch.Preparing
import RoundTrip.Proofs.Run.Streams

/-!
# Runs whose streams are full

Nobody who writes to a stream asks whether it took the text, so two runs whose streams have
different limits do the same and come to the same end (`batch_agree_streams`). Each stream holds the
first bytes of what it would hold without a limit, and that is what the sessions of the run write
(`Session.texts`): the marks of the artifacts with a newline behind those of each suite, and the
summaries of the suites, which go to one stream or the other by their verdicts. A suite that an
assembler stops leaves its marks without a newline, and no summary.
-/

namespace RoundTrip

variable {μ : Type}

/-- The marks of the artifacts that were examined, in order: a point for each that passes, and an E
for each that fails. -/
def Visit.marks (visits : List (Visit μ)) : Bytes :=
  visits.flatMap fun v =>
    match v.finding with
    | .passed _ => Utf8.encode "."
    | .failed _ => Utf8.encode "E"

/-- The texts for the streams of a run that held some sessions, and that examined some more
artifacts of a suite that has none: the marks of each suite and a newline, the summaries of the
suites that pass, and those of all others. -/
def Session.texts (sessions : List (Session μ)) (last : List (Visit μ)) : Outlet → Bytes
  | .progress =>
    (sessions.flatMap fun x => Visit.marks x.visits ++ Utf8.encode "\n") ++ Visit.marks last
  | .out => ((sessions.map verdict).filter fun v => v.isSuccess).flatMap Verdict.text
  | .err => ((sessions.map verdict).filter fun v => !v.isSuccess).flatMap Verdict.text

namespace Session

/-- The texts of sessions are those of each of them, one after the other. -/
theorem texts_cons (x : Session μ) (sessions : List (Session μ)) (o : Outlet) :
    texts (x :: sessions) [] o = texts [x] [] o ++ texts sessions [] o := by
  cases o with
  | progress => simp [texts, Visit.marks]
  | out | err => cases hx : x.verdict.isSuccess <;> simp [texts, hx]

/-- Artifacts without a session add their marks. -/
theorem texts_last (sessions : List (Session μ)) (last : List (Visit μ)) (o : Outlet) :
    texts sessions last o =
      texts sessions [] o ++ if o = .progress then Visit.marks last else [] := by
  cases o <;> simp [texts, Visit.marks]

end Session

namespace Run

variable {tools : Tools μ} {settings : Settings} {s s' : Site μ}

/-! ## What a run writes -/

/-- Calls of tools are not written. -/
theorem Examination.additions_calls {a : Artifact} {f : Finding} {calls : List Event}
    (h : Examination tools a s f calls s') (o : Outlet) : Event.additions o calls = [] := by
  cases h <;> rfl

/-- The mark of an artifact is told by what was found out about it. -/
theorem additions_marked (v : Visit μ) (o : Outlet) :
    Event.additions o [.marked v.finding.isPassed] =
      if o = .progress then Visit.marks [v] else [] := by
  cases o <;> cases hf : v.finding <;>
    simp [Event.addition, Visit.marks, hf, Finding.isPassed, markText, passMark, failMark]

/-- A walk writes the marks of its artifacts. -/
theorem Walk.additions_steps {visits : List (Visit μ)} (hw : Walk tools s visits s') (o : Outlet) :
    Event.additions o (visits.flatMap Visit.steps) =
      if o = .progress then Visit.marks visits else [] := by
  induction hw with
  | nil => cases o <;> rfl
  | cons _ he _ ih =>
    rw [List.flatMap_cons, Event.additions_append, ih, Visit.steps, Event.additions_append,
      he.additions_calls, additions_marked]
    cases o <;> simp [Visit.marks]

/-- A session writes its marks, a newline, and its summary. -/
theorem additions_session {x : Session μ} (h : x.Held tools settings) (o : Outlet) :
    Event.additions o (x.steps settings) = Session.texts [x] [] o := by
  rw [Session.steps, List.cons_append, Event.additions_cons, Event.additions_append,
    h.walked.additions_steps]
  cases o <;> cases hx : x.verdict.isSuccess <;>
    simp [Event.addition, Session.texts, Visit.marks, hx]

/-- Sessions write one after the other. -/
theorem Sessions.additions_own {sessions : List (Session μ)}
    (h : Sessions tools settings s sessions s') (o : Outlet) :
    Event.additions o (sessions.flatMap (Session.own settings)) = Session.texts sessions [] o := by
  rw [← Event.additions_filter_isStep, h.filter_isStep]
  induction h with
  | nil => cases o <;> rfl
  | cons hx _ ih =>
    rw [List.flatMap_cons, Event.additions_append, additions_session hx, ih]
    exact (Session.texts_cons ..).symm

/-- A suite that an assembler stops writes its marks alone. -/
theorem additions_breach {x : Breach μ} {f : Failure} (h : x.Held tools settings f) (o : Outlet) :
    Event.additions o (x.own settings) = if o = .progress then Visit.marks x.visits else [] := by
  have hcorpus : (x.corpus.notes x.name).filter Event.isStep = [] := by
    cases x.corpus <;> rfl
  rw [← Event.additions_filter_isStep]
  simp [Breach.own, List.filter_cons, hcorpus, filter_isStep_opening, h.walked.filter_isStep,
    Event.isStep, h.walked.additions_steps, Event.addition]

/-- What a run writes is written by the run itself. -/
theorem additions_filter_isOwn (o : Outlet) (events : List Event) :
    Event.additions o (events.filter Event.isOwn) = Event.additions o events := by
  rw [← Event.additions_filter_isStep, Event.filter_isStep_filter_isOwn,
    Event.additions_filter_isStep]

section Batch

variable {generation : Generation} {runId : String} {suites : List (String × Suite)}

/-- A run that gives a result writes the texts of its sessions. -/
theorem batch_additions {result : RunResult}
    (h : ((batch tools generation settings runId suites).run s).value = .ok result) :
    ∃ sessions s', Sessions tools settings s sessions s' ∧
      sessions.map Session.request <+: suites ∧ result.suites = sessions.map (·.entry settings) ∧
      ∀ o, Event.additions o ((batch tools generation settings runId suites).run s).events =
        Session.texts sessions [] o := by
  obtain ⟨sessions, rest, _, s', hr, hsuites, rfl, hown, -⟩ := batch_sessions h
  refine ⟨sessions, s', hr, ⟨rest, hsuites.symm⟩, by simp [Ledger.result, Ledger.addSessions],
    fun o => ?_⟩
  rw [← additions_filter_isOwn, hown, ← hr.additions_own]
  simp [Event.addition]

/-- A run that fails writes the texts of its sessions and the marks of the suite that is stopped. -/
theorem batch_additions_breach {f : Failure}
    (h : ((batch tools generation settings runId suites).run s).value = .error f) :
    ∃ sessions, ∃ x : Breach μ, Sessions tools settings s sessions x.before ∧
      x.Held tools settings f ∧ sessions.map Session.request ++ [x.request] <+: suites ∧
      ∀ o, Event.additions o ((batch tools generation settings runId suites).run s).events =
        Session.texts sessions x.visits o := by
  obtain ⟨sessions, x, hr, hx, hprefix, hown⟩ := batch_breach h
  refine ⟨sessions, x, hr, hx, hprefix, fun o => ?_⟩
  rw [← additions_filter_isOwn, hown, Session.texts_last, ← hr.additions_own,
    ← additions_breach hx]
  simp [Event.addition]

/-- Runs in sites that differ in their streams alone do the same and come to the same end. -/
theorem batch_agree_streams (hworld : s'.world = s.world)
    (hcancelled : s'.cancelled = s.cancelled) :
    Outcome.Agree (Site.Agree Eq) ((batch tools generation settings runId suites).run s)
      ((batch tools generation settings runId suites).run s') := by
  have htools : tools.Agree Eq tools := tools.agree_of_assemble fun _ _ _ _ => rfl
  refine (batch_agree htools generation settings runId suites ⟨hworld.symm, hcancelled⟩).agree
    fun text hw => ?_
  rw [hw]
  exact ⟨rfl, rfl, rfl⟩

/-- A run that begins with empty streams leaves in each of them what it writes, up to the limit. -/
theorem held_batch (limits : Outlet → Option Nat) (hs : s.streams = .limited limits) (o : Outlet) :
    (((batch tools generation settings runId suites).run s).state.streams.sink o).held =
      within (limits o)
        (Event.additions o ((batch tools generation settings runId suites).run s).events) := by
  rw [batch_fills tools generation settings runId suites (hs.trans (Streams.limited_eq limits)),
    Streams.held_sink_filled, List.nil_append]

end Batch

/-- Streams that are full change nothing but what they hold. A run whose streams have limits gives
the same value, or fails alike, and does the same as a run whose streams have none: all calls, all
remarks of tools, all that is noted and all that is written are the same, in order, and the world
behind it and the flag that cancels are, too. Each stream holds the first bytes of what it holds
without a limit. Without limits, the streams of a run that gives a result hold the texts of its
sessions; those of a run that an assembler stops also hold the marks of the artifacts that were
examined before that, with no newline behind them. -/
theorem batch_truncated (tools : Tools μ) (generation : Generation) (settings : Settings)
    (runId : String) (suites : List (String × Suite)) (w : World μ) (cancelled : Bool)
    (limits : Outlet → Option Nat) :
    let start : Site μ := { world := w, cancelled }
    let free := (batch tools generation settings runId suites).run start
    let cut := (batch tools generation settings runId suites).run
      { start with streams := .limited limits }
    cut.value = free.value ∧ cut.events = free.events ∧
    cut.state.world = free.state.world ∧ cut.state.cancelled = free.state.cancelled ∧
    (∀ o, (cut.state.streams.sink o).held = within (limits o) (free.state.streams.sink o).held) ∧
    (∀ result, free.value = .ok result → ∃ sessions s', Sessions tools settings start sessions s' ∧
      sessions.map Session.request <+: suites ∧
      result.suites = sessions.map (·.entry settings) ∧
      ∀ o, (free.state.streams.sink o).held = Session.texts sessions [] o) ∧
    ∀ f, free.value = .error f → ∃ sessions, ∃ x : Breach μ,
      Sessions tools settings start sessions x.before ∧ x.Held tools settings f ∧
      sessions.map Session.request ++ [x.request] <+: suites ∧
      ∀ o, (free.state.streams.sink o).held = Session.texts sessions x.visits o := by
  intro start free cut
  have hagree : Outcome.Agree (Site.Agree Eq) free cut := batch_agree_streams rfl rfl
  have hfree : ∀ o, (free.state.streams.sink o).held = Event.additions o free.events :=
    held_batch (s := start) (fun _ => none) rfl
  have hcut : ∀ o, (cut.state.streams.sink o).held =
      within (limits o) (Event.additions o cut.events) := held_batch limits rfl
  refine ⟨hagree.value, hagree.events, hagree.state.world.symm, hagree.state.cancelled,
    fun o => by rw [hcut, hfree, hagree.events], fun result hresult => ?_, fun f hf => ?_⟩
  · obtain ⟨sessions, s', hr, hprefix, hsuites, htexts⟩ := batch_additions hresult
    exact ⟨sessions, s', hr, hprefix, hsuites, fun o => (hfree o).trans (htexts o)⟩
  · obtain ⟨sessions, x, hr, hx, hprefix, htexts⟩ := batch_additions_breach hf
    exact ⟨sessions, x, hr, hx, hprefix, fun o => (hfree o).trans (htexts o)⟩

/-- Limits that let one mark through, and six bytes of the summaries of suites that pass. -/
def sampleLimits : Outlet → Option Nat
  | .progress => some 1
  | .out => some 6
  | .err => none

/-- A run over a directory with one artifact, which passes, shows its mark, a newline, and a
summary. -/
theorem streams_whole :
    let out := (batch unlaunchedTools .llvm38 {} "run" [("whole", .unnamed sampleRoot)]).run
      wholeSite
    ∃ result, out.value = .ok result ∧ result.success = true ∧
      out.state.streams.progress.held = Utf8.encode ".\n" ∧
      out.state.streams.out.held = Utf8.encode "Passed all 1 Tests!\n" := by
  have hp : Answers (unlaunchedTools.prepare "whole" (.unnamed sampleRoot) sampleRoot) wholeSite
      .skipped wholeSite := ⟨rfl, rfl⟩
  have hv : Yields (verify unlaunchedTools sampleRoot) wholeSite
      (.ok ⟨[(sampleArtifact "a").text], [], false⟩) _ _ := verify_yields found_whole (.intro _ _)
  have hbatch : Yields (batch unlaunchedTools .llvm38 {} "run" [("whole", .unnamed sampleRoot)])
      wholeSite _ _ _ := batch_yields (runEachSuite_yields rfl (runSuite_yields hp hv) (.pure _))
  refine ⟨_, hbatch.value, rfl, ?_⟩
  rw [hbatch.state]
  exact ⟨rfl, by decide +kernel⟩

/-- The sample tools with an assembler that cannot be run for the second of two texts. -/
def brokenTools : Tools Nat :=
  { sampleTools (.exited 3) with
    assemble := fun text =>
      if text = (sampleArtifact "b").text then pure (.error sampleFailure) else pure (.ok 0) }

/-- A site with the two texts and no reference binary. -/
def textsSite : Site Nat := sampleSite ["a.out.ll", "b.out.ll"]

/-- Their artifacts are discovered. -/
theorem found_texts : found sampleRoot textsSite = [sampleArtifact "a", sampleArtifact "b"] :=
  (found_sample (by decide +kernel)).trans (by decide +kernel)

/-- A run that is stopped at the second artifact shows the mark of the first, which fails, and no
newline. -/
theorem streams_broken :
    let out := (batch brokenTools .llvm38 {} "run" [("texts", .unnamed sampleRoot)]).run textsSite
    out.value = .error sampleFailure ∧
      out.state.streams.progress.held = Utf8.encode "E" := by
  have hp : Answers (brokenTools.prepare "texts" (.unnamed sampleRoot) sampleRoot) textsSite
      .skipped textsSite := ⟨rfl, rfl⟩
  have hv : Yields (verify brokenTools sampleRoot) textsSite (.error sampleFailure) _ _ :=
    verify_yields found_texts (.intro _ _)
  obtain ⟨_, hbatch⟩ := batch_of_verify_error .llvm38 "run" rfl hp hv
  refine ⟨hbatch.value, ?_⟩
  rw [hbatch.state]
  rfl

/-- A run that passes does so with streams that are full, and shows its mark without the newline and
the beginning of its summary. A run that an assembler stops is stopped there as well, and the mark
that it shows then is all that it shows without a limit. -/
theorem batch_truncated_sample :
    let cut := (batch unlaunchedTools .llvm38 {} "run" [("whole", .unnamed sampleRoot)]).run
      { wholeSite with streams := .limited sampleLimits }
    let stopped := (batch brokenTools .llvm38 {} "run" [("texts", .unnamed sampleRoot)]).run
      { textsSite with streams := .limited sampleLimits }
    (∃ result, cut.value = .ok result ∧ result.success = true) ∧
      cut.state.streams.progress.held = Utf8.encode "." ∧
      cut.state.streams.out.held = Utf8.encode "Passed" ∧
      (∃ sessions s', Sessions unlaunchedTools {} wholeSite sessions s' ∧
        Session.texts sessions [] .progress = Utf8.encode ".\n" ∧
        Session.texts sessions [] .out = Utf8.encode "Passed all 1 Tests!\n") ∧
      stopped.value = .error sampleFailure ∧
      stopped.state.streams.progress.held = Utf8.encode "E" ∧
      ∃ sessions, ∃ x : Breach Nat, x.Held brokenTools {} sampleFailure ∧
        Session.texts sessions x.visits .progress = Utf8.encode "E" := by
  obtain ⟨result, hresult, hsuccess, hmarks, hsummary⟩ := streams_whole
  obtain ⟨hfailure, hmark⟩ := streams_broken
  obtain ⟨hvalue, -, -, -, hheld, hok, -⟩ := batch_truncated unlaunchedTools .llvm38 {} "run"
    [("whole", .unnamed sampleRoot)] wholeSite.world false sampleLimits
  obtain ⟨hfails, -, -, -, hfull, -, herror⟩ := batch_truncated brokenTools .llvm38 {} "run"
    [("texts", .unnamed sampleRoot)] textsSite.world false sampleLimits
  obtain ⟨sessions, s', hr, -, -, htexts⟩ := hok result hresult
  obtain ⟨front, x, -, hx, -, hbroken⟩ := herror _ hfailure
  refine ⟨⟨result, hvalue.trans hresult, hsuccess⟩, ?_, ?_, ⟨sessions, s', hr,
    (htexts .progress).symm.trans hmarks, (htexts .out).symm.trans hsummary⟩,
    hfails.trans hfailure, ?_, front, x, hx, (hbroken .progress).symm.trans hmark⟩
  · exact (hheld .progress).trans ((congrArg _ hmarks).trans rfl)
  · exact (hheld .out).trans ((congrArg _ hsummary).trans rfl)
  · exact (hfull .progress).trans ((congrArg _ hmark).trans rfl)

end Run

end RoundTrip

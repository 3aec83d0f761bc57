import RoundTrip.Proofs.Batch.Stopping

/-!
# The lifecycle in the log

Some records of the log are made for programs: a field `event` names a step in the life of a run,
and the other fields say what there is to say about it. `Event.lifecycle` picks these records out
of all that a run leaves behind, and `SuiteEntry.lifecycle` says what they are for an entry of the
report: the suite begins, its corpus may fail, each artifact is verified, the suite is over.

No tool can forge such a record (`Event.lifecycle_filter_isOwn`), and a run does nothing of its own
but what its sessions do. A run that an assembler stops has held the sessions of some suites and has
begun one more, which `Breach` tells of: it has no end, so its last record is about the last
artifact that was verified. `batch_lifecycle` puts both cases together.
-/

namespace RoundTrip

/-- What a log record says: its fields, in order. -/
abbrev Fields := List (String × FieldValue)

/-- Whether a record is about a step in the life of a run. -/
def LogRecord.isLifecycle (r : LogRecord) : Bool := r.fields.any (·.1 == "event")

/-- What the records of some events say about steps in the life of a run, in order. -/
def Event.lifecycle (events : List Event) : List Fields :=
  ((events.flatMap Event.records).filter LogRecord.isLifecycle).map LogRecord.fields

/-! ## What an entry of a report stands for -/

/-- A suite begins. -/
def startedFields (suite : String) (dir : Path) : Fields :=
  [("event", .text "suite.started"), ("suite", .text suite), ("cache_dir", .text dir.display)]

/-- The corpus of a suite cannot be prepared, unless it can. -/
def Preparation.failureFields (suite : String) : Preparation → List Fields
  | .failed stage code =>
    [[("event", .text "corpus.failed"), ("suite", .text suite), ("step", .text stage.name),
      ("exit_code", .int code.toInt)]]
  | .skipped | .prepared => []

/-- An artifact is verified. -/
def Visit.verifiedFields {μ : Type} (v : Visit μ) : Fields :=
  ("event", .text "artifact.verified") :: ("path", .text v.artifact.text.display) ::
    match v.finding with
    | .passed ending => [("passed", .bool true), ("outcome", .text ending.text)]
    | .failed fault => [("passed", .bool false), ("cause", .text fault.text)]

/-- A suite is over. -/
def finishedFields (suite : String) (v : Verdict) : Fields :=
  [("event", .text "suite.finished"), ("suite", .text suite), ("total", .int v.total),
    ("failed", .int v.failed), ("success", .bool v.isSuccess)]

/-- A suite begins whose corpus is prepared in a way, and some artifacts are verified. -/
def openingFields {μ : Type} (suite : String) (dir : Path) (corpus : Preparation)
    (visits : List (Visit μ)) : List Fields :=
  startedFields suite dir :: corpus.failureFields suite ++ visits.map Visit.verifiedFields

/-- What is logged about a suite that an entry of a report is about, given the visits to its
artifacts. -/
def SuiteEntry.lifecycle {μ : Type} (e : SuiteEntry) (visits : List (Visit μ)) : List Fields :=
  openingFields e.suite e.cacheDir e.corpus visits ++ [finishedFields e.suite e.verdict]

namespace Event

/-! ## Events that are no steps in the life of a run -/

theorem lifecycle_append (front back : List Event) :
    lifecycle (front ++ back) = lifecycle front ++ lifecycle back := by
  simp [lifecycle]

theorem lifecycle_cons (e : Event) (events : List Event) :
    lifecycle (e :: events) = lifecycle [e] ++ lifecycle events :=
  lifecycle_append [e] events

/-- Nothing is said by events of which each says nothing. -/
theorem lifecycle_eq_nil {events : List Event} (h : ∀ e ∈ events, lifecycle [e] = []) :
    lifecycle events = [] := by
  induction events with
  | nil => rfl
  | cons e events ih =>
    obtain ⟨he, hrest⟩ := List.forall_mem_cons.1 h
    rw [lifecycle_cons, he, ih hrest, List.append_nil]

/-- No tool speaks about the life of a run. -/
theorem lifecycle_remark (r : Remark) : lifecycle [.remark r] = [] := by
  cases r with
  | cancel | printed => rfl
  | troubled command reason =>
    cases hd : command.description <;>
      simp [lifecycle, records, Remark.record?, Remark.troubleRecord, hd, LogRecord.say,
        LogRecord.isLifecycle]
  | launching | killFailed | assemblyFailed | rejected | queryTimedOut | resolved | preparing =>
    simp [lifecycle, records, Remark.record?, LogRecord.say, LogRecord.isLifecycle]

/-- What is said about the life of a run is said by the run. -/
theorem lifecycle_filter_isOwn (events : List Event) :
    lifecycle (events.filter isOwn) = lifecycle events := by
  induction events with
  | nil => rfl
  | cons e events ih =>
    rw [lifecycle_cons e events, ← ih]
    cases e with
    | remark r => rw [List.filter_cons_of_neg (by simp [isOwn]), lifecycle_remark, List.nil_append]
    | assembling | interpreting | preparing | entered | noted | marked | marksEnded | summarized
    | said => rw [List.filter_cons_of_pos rfl, lifecycle_cons]

/-- Steps that others take part in are not logged. -/
theorem lifecycle_of_isStep {events : List Event} (h : events.filter isStep = events) :
    lifecycle events = [] := by
  refine lifecycle_eq_nil fun e he => ?_
  have hstep : e.isStep = true := by
    rw [← h] at he
    exact (List.mem_filter.1 he).2
  cases e with
  | remark | entered | noted | said => cases hstep
  | assembling | interpreting | preparing | marked | marksEnded | summarized => rfl

end Event

open Event (lifecycle lifecycle_append lifecycle_cons)

namespace Run

variable {μ : Type} {tools : Tools μ} {settings : Settings} {s s' : Site μ}

/-- Nothing before the first artifact is a step in the life of a run. -/
theorem lifecycle_opening (root : Path) (s : Site μ) : lifecycle (opening root s) = [] := by
  refine Event.lifecycle_eq_nil fun e he => ?_
  simp only [opening, surveyed, List.cons_append, List.mem_cons, List.mem_append, List.mem_map,
    List.not_mem_nil, or_false] at he
  obtain rfl | ⟨n, hn, rfl⟩ | rfl := he
  · rfl
  · split at hn
    · obtain ⟨f, -, hf⟩ := List.mem_filterMap.1 hn
      obtain ⟨r, -, rfl⟩ := Option.map_eq_some_iff.1 hf
      rfl
    · obtain rfl := List.mem_singleton.1 hn
      rfl
  · rfl

/-- What is logged about an artifact that was examined. -/
theorem Examination.lifecycle_own {v : Visit μ}
    (h : Examination tools v.artifact v.before v.finding v.calls v.after) :
    lifecycle v.own = [v.verifiedFields] := by
  have hcalls := Event.lifecycle_of_isStep h.filter_isStep
  have hnotes : lifecycle (v.finding.notes v.artifact) = [] := by
    match v.finding with
    | .failed (.rejected _) | .failed .referenceMissing | .failed (.endingsDiffer ..)
    | .passed _ => rfl
  have hmark : lifecycle [.noted (.verified v.artifact.text v.finding),
      .marked v.finding.isPassed] = [v.verifiedFields] := by
    simp only [lifecycle, Visit.verifiedFields]
    cases v.finding <;> rfl
  rw [Visit.own, lifecycle_append, lifecycle_append, hcalls, hnotes, hmark]
  rfl

/-- What is logged about the artifacts of a walk. -/
theorem Walk.lifecycle_own {visits : List (Visit μ)} (hw : Walk tools s visits s') :
    lifecycle (visits.flatMap Visit.own) = visits.map Visit.verifiedFields := by
  induction hw with
  | nil => rfl
  | cons _ he _ ih =>
    rw [List.flatMap_cons, lifecycle_append, he.lifecycle_own, ih]
    rfl

/-- What is logged about a suite up to its first artifact. -/
theorem lifecycle_start (suite : String) (dir : Path) (corpus : Preparation) :
    lifecycle (.noted (.suiteStarted suite dir) :: .preparing suite dir :: corpus.notes suite) =
      startedFields suite dir :: corpus.failureFields suite := by
  cases corpus with
  | skipped | prepared => rfl
  | failed stage code =>
    simp [lifecycle, Preparation.notes, Event.records, Notice.records, Notice.stepRecord,
      LogRecord.say, LogRecord.isLifecycle, startedFields, Preparation.failureFields]

/-- What is logged about a suite that had its session is what the entry about it stands for. -/
theorem lifecycle_session {x : Session μ} (h : x.Held tools settings) :
    lifecycle (x.own settings) = (x.entry settings).lifecycle x.visits := by
  have hnote : lifecycle (if x.interrupted then
      [.noted (.interrupted ((x.found settings).length - x.visits.length))] else []) = [] := by
    split <;> rfl
  have hend : lifecycle [.summarized x.name x.verdict, .noted (.suiteFinished x.name x.verdict)] =
      [finishedFields x.name x.verdict] := rfl
  rw [Session.own, lifecycle_append, lifecycle_append, lifecycle_start, lifecycle_append,
    lifecycle_append, lifecycle_opening, lifecycle_append, h.walked.lifecycle_own, hnote, hend]
  simp [SuiteEntry.lifecycle, openingFields, Session.entry, lifecycle, Event.records]

/-- What is logged about the suites that had their sessions. -/
theorem Sessions.lifecycle_own {sessions : List (Session μ)}
    (h : Sessions tools settings s sessions s') :
    lifecycle (sessions.flatMap (Session.own settings)) =
      sessions.flatMap fun x => (x.entry settings).lifecycle x.visits := by
  induction h with
  | nil => rfl
  | cons hx _ ih =>
    rw [List.flatMap_cons, lifecycle_append, lifecycle_session hx, ih, List.flatMap_cons]

end Run

/-! ## Suites that an assembler stops -/

/-- What happened to a suite that was started and that an assembler stopped. -/
structure Breach (μ : Type) where
  /-- The name of the suite. -/
  name : String
  /-- The suite. -/
  suite : Suite
  /-- The site in which the suite was started. -/
  before : Site μ
  /-- How its corpus was prepared. -/
  corpus : Preparation
  /-- The site behind the preparation, in which the directory is walked. -/
  opened : Site μ
  /-- What happened to the artifacts that were examined. -/
  visits : List (Visit μ)
  /-- The artifact whose assembler failed. -/
  artifact : Artifact
  /-- The site in which the assembler was called for it. -/
  reached : Site μ
  /-- The site that the assembler left. -/
  after : Site μ

namespace Breach

variable {μ : Type}

/-- The row of the request that the suite belongs to. -/
def request (x : Breach μ) : String × Suite := (x.name, x.suite)

/-- The directory of the suite. -/
def dir (settings : Settings) (x : Breach μ) : Path := settings.suiteDir x.suite.cacheDir

/-- All that the run did of its own for the suite. -/
def own (settings : Settings) (x : Breach μ) : List Event :=
  .noted (.suiteStarted x.name (x.dir settings)) :: .preparing x.name (x.dir settings) ::
    x.corpus.notes x.name ++
    (Run.opening (x.dir settings) x.opened ++ (x.visits.flatMap Visit.own ++
      [.assembling x.artifact.text]))

/-- What is logged about the suite. -/
def lifecycle (settings : Settings) (x : Breach μ) : List Fields :=
  openingFields x.name (x.dir settings) x.corpus x.visits

/-- A suite that is stopped as the answers of the tools ask for: it begins in a site that is not
cancelled, and its directory is walked up to the artifact whose assembler fails. -/
structure Held (tools : Tools μ) (settings : Settings) (f : Failure) (x : Breach μ) : Prop where
  started : x.before.cancelled = false
  prepared : Run.Answers (tools.prepare x.name x.suite (x.dir settings)) x.before x.corpus x.opened
  walked : Run.Walk tools x.opened x.visits x.reached
  processed : x.visits.map (·.artifact) ++ [x.artifact] <+: Run.found (x.dir settings) x.opened
  reached : x.reached.cancelled = false
  failed : Run.Answers (tools.assemble x.artifact.text) x.reached (.error f) x.after

end Breach

namespace Run

variable {μ : Type} {tools : Tools μ} {settings : Settings} {s s' : Site μ} {own : List Event}
  {f : Failure}

/-- What is logged about a suite that an assembler stops ends with its last artifact. -/
theorem lifecycle_breach {x : Breach μ} (h : x.Held tools settings f) :
    lifecycle (x.own settings) = x.lifecycle settings := by
  rw [Breach.own, lifecycle_append, lifecycle_start, lifecycle_append, lifecycle_opening,
    lifecycle_append, h.walked.lifecycle_own]
  simp [Breach.lifecycle, openingFields, lifecycle, Event.records]

/-- A suite that fails is stopped by an assembler. -/
theorem runSuite_breach {name : String} {suite : Suite} (hs : s.cancelled = false)
    (h : Yields (runSuite tools settings name suite) s (.error f) own s') :
    ∃ x : Breach μ, x.before = s ∧ x.request = (name, suite) ∧ x.Held tools settings f ∧
      own = x.own settings := by
  obtain ⟨corpus, opened, hp⟩ : ∃ corpus opened,
      Answers (tools.prepare name suite (settings.suiteDir suite.cacheDir)) s corpus opened :=
    ⟨_, _, .intro _ _⟩
  obtain ⟨visits, rest, s₁, x, last, s₂, hw, hh, hf⟩ :=
    exists_walk tools (found (settings.suiteDir suite.cacheDir) opened) opened
  have hv := hw.verify_yields hh hf
  cases hh with
  | done | interrupted => cases ((runSuite_yields hp hv).det h).1
  | @broken a rest g _ hreached ha =>
    have hy : Yields (runSuite tools settings name suite) s (.error g) _ _ :=
      .bind (.see _) (.bind (.note _) (.bind (prepare_yields hp) (.bind hv (.pure _))))
    obtain ⟨hvalue, hown, -⟩ := hy.det h
    obtain rfl := Except.error.inj hvalue
    refine ⟨⟨name, suite, s, corpus, opened, visits, a, s₁, s₂⟩, rfl, rfl,
      { started := hs
        prepared := hp
        walked := hw
        processed := ⟨rest, by simpa [Breach.dir] using hf.symm⟩
        reached := hreached
        failed := ha }, ?_⟩
    rw [← hown]
    simp [Breach.own, Breach.dir]

/-- A run over suites that fails held sessions of the first of them, and the next one is stopped by
an assembler. -/
theorem runEachSuite_breach {suites : List (String × Suite)} {ledger : Ledger}
    (h : Yields (runEachSuite tools settings suites ledger) s (.error f) own s') :
    ∃ sessions, ∃ x : Breach μ, Sessions tools settings s sessions x.before ∧
      x.Held tools settings f ∧ sessions.map Session.request ++ [x.request] <+: suites ∧
      own = sessions.flatMap (Session.own settings) ++ x.own settings := by
  induction suites generalizing ledger s own with
  | nil => cases h.value
  | cons row suites ih =>
    obtain ⟨name, suite⟩ := row
    by_cases hs : s.cancelled = true
    · have hstop : Yields (runEachSuite tools settings ((name, suite) :: suites) ledger) s
          (.ok { ledger with cancelled := true }) [] s := by
        refine .of_own (.bind (.see _) ?_) (List.nil_append _)
        rw [if_pos hs]
        exact .pure _
      cases (hstop.det h).1
    · rw [Bool.not_eq_true] at hs
      obtain ⟨g, own₁, s₁, -, hy⟩ | ⟨x, rfl, hreq, hx, hy⟩ :=
        runSuite_cases tools settings name suite hs
      · have hstop : Yields (runEachSuite tools settings ((name, suite) :: suites) ledger) s
            (.error g) own₁ s₁ := by
          refine .of_own (.bind (.see _) ?_) (List.nil_append _)
          rw [hs]
          exact .of_own (.bind hy (.pure _)) (List.append_nil _)
        obtain ⟨hvalue, rfl, rfl⟩ := hstop.det h
        obtain rfl := Except.error.inj hvalue
        obtain ⟨x, rfl, hreq, hx, rfl⟩ := runSuite_breach hs hy
        exact ⟨[], x, .nil, hx, ⟨suites, by rw [hreq]; rfl⟩, rfl⟩
      · obtain ⟨own₂, hrest⟩ : ∃ own₂, Yields (runEachSuite tools settings suites
            (ledger.add (x.entry settings) x.tally)) (x.left tools) (.error f) own₂ s' := by
          have hnext := Yields.intro (runEachSuite tools settings suites
            (ledger.add (x.entry settings) x.tally)) (x.left tools)
          obtain ⟨hvalue, -, hstate⟩ := (runEachSuite_yields hs hy hnext).det h
          rw [hvalue, hstate] at hnext
          exact ⟨_, hnext⟩
        obtain ⟨-, rfl, -⟩ := (runEachSuite_yields hs hy hrest).det h
        obtain ⟨sessions, b, hr, hb, ⟨rest, hprefix⟩, rfl⟩ := ih hrest
        refine ⟨x :: sessions, b, .cons hx hr, hb, ⟨rest, ?_⟩, by simp⟩
        rw [List.map_cons, ← hprefix, ← hreq]
        rfl

/-- A run over suites that fails does what its sessions and the suite that is stopped do. -/
theorem batch_breach {generation : Generation} {runId : String} {suites : List (String × Suite)}
    (h : ((batch tools generation settings runId suites).run s).value = .error f) :
    ∃ sessions, ∃ x : Breach μ, Sessions tools settings s sessions x.before ∧
      x.Held tools settings f ∧ sessions.map Session.request ++ [x.request] <+: suites ∧
      ((batch tools generation settings runId suites).run s).events.filter Event.isOwn =
        .entered generation :: .noted (.batchStarted suites.length) ::
          (sessions.flatMap (Session.own settings) ++ x.own settings) := by
  have hy := Yields.intro (runEachSuite tools settings suites {}) s
  match hx : ((runEachSuite tools settings suites {}).run s).value with
  | .ok ledger =>
    rw [hx] at hy
    have hbatch : Yields (batch tools generation settings runId suites) s (.ok _) _ _ :=
      batch_yields hy
    cases hbatch.value.symm.trans h
  | .error g =>
    rw [hx] at hy
    have hbatch : Yields (batch tools generation settings runId suites) s (.error g) _ _ :=
      .bind (.emit rfl) (.bind (.see _) (.bind (.note _) (.bind hy (.pure _))))
    obtain rfl := Except.error.inj (hbatch.value.symm.trans h)
    obtain ⟨sessions, x, hr, hbroken, hprefix, hown⟩ := runEachSuite_breach hy
    refine ⟨sessions, x, hr, hbroken, hprefix, ?_⟩
    rw [hbatch.own, hown]
    simp

/-- The log agrees with the report. Of a run that gives a result, the records about the life of the
run are those that the entries of the report stand for, in order: the suite begins; its corpus
fails, if the entry says so; each artifact that was processed is verified, in order, with its fault
just if it is among the artifacts of the entry that fail; the suite is over. Of a run that fails,
they are the same for the suites that had their sessions, and one more suite begins, of which the
records up to the failure are logged, but not that it is over. -/
theorem batch_lifecycle (tools : Tools μ) (generation : Generation) (settings : Settings)
    (runId : String) (suites : List (String × Suite)) (s : Site μ) :
    let out := (batch tools generation settings runId suites).run s
    (∀ result, out.value = .ok result → ∃ sessions s', Sessions tools settings s sessions s' ∧
      sessions.map Session.request <+: suites ∧
      result.suites = sessions.map (·.entry settings) ∧
      (∀ x ∈ sessions, (x.entry settings).verdict.total = x.visits.length ∧
        (x.entry settings).failedArtifacts = x.visits.filterMap Visit.failed?) ∧
      Event.lifecycle out.events =
        sessions.flatMap fun x => (x.entry settings).lifecycle x.visits) ∧
    ∀ f, out.value = .error f → ∃ sessions, ∃ x : Breach μ,
      Sessions tools settings s sessions x.before ∧ x.Held tools settings f ∧
      sessions.map Session.request ++ [x.request] <+: suites ∧
      Event.lifecycle out.events =
        (sessions.flatMap fun x => (x.entry settings).lifecycle x.visits) ++
          x.lifecycle settings := by
  refine ⟨fun result h => ?_, fun f h => ?_⟩
  · obtain ⟨sessions, rest, _, s', hr, hsuites, rfl, hown, -⟩ := batch_sessions h
    refine ⟨sessions, s', hr, ⟨rest, hsuites.symm⟩, ?_, fun x _ => ⟨?_, ?_⟩, ?_⟩
    · simp [Ledger.result, Ledger.addSessions]
    · exact Tally.total_addVisits x.visits x.interrupted
    · simp [Session.entry, Session.tally, Tally.addVisits]
    · have hend : ∀ success cancelled,
          lifecycle [.noted (.batchFinished success cancelled)] = [] := by
        intro success cancelled
        cases success <;> rfl
      rw [← Event.lifecycle_filter_isOwn, hown, List.cons_append, List.cons_append, lifecycle_cons,
        lifecycle_cons (.noted _), lifecycle_append, hr.lifecycle_own, hend, List.append_nil]
      rfl
  · obtain ⟨sessions, x, hr, hx, hprefix, hown⟩ := batch_breach h
    refine ⟨sessions, x, hr, hx, hprefix, ?_⟩
    rw [← Event.lifecycle_filter_isOwn, hown, lifecycle_cons, lifecycle_cons (.noted _),
      lifecycle_append, hr.lifecycle_own, lifecycle_breach hx]
    rfl

theorem batch_lifecycle_sample :
    (∃ result sessions s',
      ((batch unlaunchedTools .llvm38 {} "run" [("whole", .unnamed sampleRoot)]).run
        wholeSite).value = .ok result ∧
      Sessions unlaunchedTools {} wholeSite sessions s' ∧
      Event.lifecycle ((batch unlaunchedTools .llvm38 {} "run"
          [("whole", .unnamed sampleRoot)]).run wholeSite).events =
        sessions.flatMap fun x => (x.entry {}).lifecycle x.visits) ∧
    ∃ x : Breach Nat, x.Held failingTools {} sampleFailure ∧
      ((batch failingTools .llvm38 {} "run" [("whole", .unnamed sampleRoot)]).run
        wholeSite).value = .error sampleFailure ∧
      Event.lifecycle ((batch failingTools .llvm38 {} "run"
          [("whole", .unnamed sampleRoot)]).run wholeSite).events = x.lifecycle {} := by
  constructor
  · obtain ⟨result, hok, -⟩ := batch_whole
    obtain ⟨sessions, s', hr, -, -, -, hlog⟩ :=
      (batch_lifecycle unlaunchedTools .llvm38 {} "run" _ wholeSite).1 result hok
    exact ⟨result, sessions, s', hok, hr, hlog⟩
  · obtain ⟨sessions, x, -, hx, ⟨rest, hrest⟩, hlog⟩ :=
      (batch_lifecycle failingTools .llvm38 {} "run" _ wholeSite).2 _ batch_failing
    -- the request has one suite, so no session was held before it was stopped
    have hnil : sessions = [] := by
      have hlength := congrArg List.length hrest
      simp only [List.length_append, List.length_map, List.length_cons, List.length_nil] at hlength
      exact List.eq_nil_of_length_eq_zero (by omega)
    subst hnil
    exact ⟨x, hx, batch_failing, hlog⟩

end Run

end RoundTrip

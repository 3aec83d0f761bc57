import RoundTrip.Proofs.Run.Heeding
import RoundTrip.Proofs.Verification.Walk

/-!
# What a run over several suites does

A suite that is started has a session: its corpus is prepared, its directory is walked in the site
that the preparation left, and its summary is written. `Session.Held` says what makes a session of
a suite, and `Run.Sessions` chains the sessions of a run: each begins in the site that the one
before has left, and none begins in a site that is cancelled. `batch_cases` says that a run over
suites either stops with the failure of an assembler or holds the sessions of the first suites of
the request, all of them unless the run is cancelled.

`batch_success_iff` is what a user relies on: a run is a success just if it held a session of every
suite of the request, found artifacts in each, examined all of them, and each of them passed.
-/

namespace RoundTrip

/-! ## Verdicts -/

/-- A suite passes just if it has artifacts, all of them were examined, and none fails. -/
theorem Verdict.isSuccess_ofTally (t : Tally) :
    (Verdict.ofTally t).isSuccess = true ↔
      t.failed = [] ∧ t.total ≠ 0 ∧ t.cancelled = false := by
  simp only [Verdict.isSuccess, Verdict.ofTally, Verdict.kindOf]
  split
  · simp_all
  · split
    · simp_all
    · split <;> simp_all

/-- The tally of some visits counts each of them. -/
theorem Tally.total_addVisits {μ : Type} (visits : List (Visit μ)) (cancelled : Bool) :
    (({} : Tally).addVisits visits cancelled).total = visits.length := by
  induction visits with
  | nil => rfl
  | cons v visits ih =>
    cases hv : v.finding <;>
      simp_all [Tally.addVisits, Tally.total, Visit.passedPaths, Visit.failed?,
        Finding.isPassed] <;> omega

/-- No artifact of some visits fails just if each of them passes. -/
theorem Tally.failed_addVisits_eq_nil {μ : Type} (visits : List (Visit μ)) (cancelled : Bool) :
    (({} : Tally).addVisits visits cancelled).failed = [] ↔
      ∀ v ∈ visits, v.finding.isPassed = true := by
  simp only [Tally.addVisits, List.nil_append, List.filterMap_eq_nil_iff]
  refine forall₂_congr fun v _ => ?_
  cases hv : v.finding <;> simp [Visit.failed?, hv, Finding.isPassed]

/-! ## Sessions -/

/-- What is noted about the preparation of the corpus of a suite. -/
def Preparation.notes (name : String) : Preparation → List Event
  | .failed stage code => [.noted (.corpusFailed name stage code)]
  | _ => []

/-- What happened to a suite that was started. -/
structure Session (μ : Type) where
  /-- The name of the suite. -/
  name : String
  /-- The suite. -/
  suite : Suite
  /-- The site in which the suite was started. -/
  before : Site μ
  /-- How its corpus was prepared. -/
  corpus : Preparation
  /-- The site behind the preparation, in which the directory is walked. -/
  opened : Site μ
  /-- What happened to the artifacts that were examined. -/
  visits : List (Visit μ)
  /-- Whether artifacts were left out. -/
  interrupted : Bool
  /-- The site that the walk left. -/
  after : Site μ
  /-- How many milliseconds the suite took. -/
  durationMs : Nat

namespace Session

variable {μ : Type}

/-- The row of the request that the session belongs to. -/
def request (x : Session μ) : String × Suite := (x.name, x.suite)

/-- The directory of the suite. -/
def dir (settings : Settings) (x : Session μ) : Path := settings.suiteDir x.suite.cacheDir

/-- The artifacts that were discovered in the directory when it was walked. -/
def found (settings : Settings) (x : Session μ) : List Artifact :=
  Run.found (x.dir settings) x.opened

/-- The tally of the artifacts. -/
def tally (x : Session μ) : Tally := ({} : Tally).addVisits x.visits x.interrupted

/-- The verdict about the suite. -/
def verdict (x : Session μ) : Verdict := .ofTally x.tally

/-- The entry of a report about the suite. -/
def entry (settings : Settings) (x : Session μ) : SuiteEntry :=
  ⟨x.name, x.dir settings, x.corpus, x.verdict, x.tally.failed, x.durationMs⟩

/-- The site behind the summary of the suite. -/
def left (tools : Tools μ) (x : Session μ) : Site μ :=
  ((Run.conclude tools x.name x.tally).run
    { x.after with streams := x.after.streams.markEnd }).state

/-- The calls of tools for the suite, and what was written about it. -/
def steps (settings : Settings) (x : Session μ) : List Event :=
  .preparing x.name (x.dir settings) :: x.visits.flatMap Visit.steps ++
    [.marksEnded, .summarized x.name x.verdict]

/-- All that the run did of its own for the suite. -/
def own (settings : Settings) (x : Session μ) : List Event :=
  .noted (.suiteStarted x.name (x.dir settings)) :: .preparing x.name (x.dir settings) ::
    x.corpus.notes x.name ++
    (Run.opening (x.dir settings) x.opened ++ (x.visits.flatMap Visit.own ++
      if x.interrupted then [.noted (.interrupted ((x.found settings).length - x.visits.length))]
      else []) ++ [.marksEnded]) ++
    [.summarized x.name x.verdict, .noted (.suiteFinished x.name x.verdict)]

/-- A session as the answers of the tools ask for: it begins in a site that is not cancelled, and
its directory is walked until no artifact is left or the run is cancelled. -/
structure Held (tools : Tools μ) (settings : Settings) (x : Session μ) : Prop where
  started : x.before.cancelled = false
  prepared : Run.Answers (tools.prepare x.name x.suite (x.dir settings)) x.before x.corpus x.opened
  walked : Run.Walk tools x.opened x.visits x.after
  processed : x.visits.map (·.artifact) <+: x.found settings
  interrupted_iff : x.interrupted = true ↔ x.visits.length < (x.found settings).length
  cancelled : x.interrupted = true → x.after.cancelled = true

/-- A session is not interrupted just if it examined all artifacts that it found. -/
theorem Held.interrupted_eq_false_iff {tools : Tools μ} {settings : Settings} {x : Session μ}
    (h : x.Held tools settings) :
    x.interrupted = false ↔ x.visits.map (·.artifact) = x.found settings := by
  have hlen : (x.visits.map (·.artifact)).length = x.visits.length := List.length_map ..
  have hle := h.processed.length_le
  rw [← Bool.not_eq_true, h.interrupted_iff]
  constructor
  · exact fun hn => h.processed.eq_of_length (by omega)
  · intro he
    rw [← he]
    omega

end Session

namespace Run

variable {μ : Type}

/-- Sessions that were held one after the other. -/
inductive Sessions (tools : Tools μ) (settings : Settings) :
    Site μ → List (Session μ) → Site μ → Prop
  | nil {s : Site μ} : Sessions tools settings s [] s
  | cons {x : Session μ} {sessions : List (Session μ)} {s' : Site μ} : x.Held tools settings →
      Sessions tools settings (x.left tools) sessions s' →
      Sessions tools settings x.before (x :: sessions) s'

variable {tools : Tools μ} {settings : Settings} {s s₁ s₂ : Site μ} {name : String} {suite : Suite}
  {visits : List (Visit μ)} {rest : List Artifact} {own : List Event}

/-- A walk that comes to its end without a failure notes how many artifacts are left, if any. -/
theorem Halt.own_eq {c : Bool} (hh : Halt tools s rest (.ok c) own s₁) :
    own = if c then [.noted (.interrupted rest.length)] else [] := by
  cases hh <;> rfl

/-- Preparing a corpus is a call of its tool, and a failure is noted. -/
theorem prepare_yields {corpus : Preparation}
    (h : Answers (tools.prepare name suite (settings.suiteDir suite.cacheDir)) s corpus s₁) :
    Yields (prepare tools name suite (settings.suiteDir suite.cacheDir)) s corpus
      (.preparing name (settings.suiteDir suite.cacheDir) ::
        corpus.notes name) s₁ := by
  cases corpus with
  | skipped | prepared =>
    exact .of_own (.bind (.emit rfl) (.bind (.perform h) (.bind (.pure _) (.pure _)))) rfl
  | failed stage code =>
    exact .of_own (.bind (.emit rfl) (.bind (.perform h) (.bind (.note _) (.pure _)))) rfl

/-- A suite is concluded by its summary, and the tools may do something behind it. -/
theorem conclude_yields (tools : Tools μ) (name : String) (tally : Tally) (s : Site μ) :
    Yields (conclude tools name tally) s (.ofTally tally)
      [.summarized name (.ofTally tally), .noted (.suiteFinished name (.ofTally tally))]
      ((conclude tools name tally).run s).state :=
  .of_own (.bind (.bind (.write _) (.bind (.emit rfl) (.perform (.intro _ _))))
    (.bind (.note _) (.pure _))) rfl

/-- A suite is prepared, verified in the site that its preparation left, and concluded. -/
theorem runSuite_yields {corpus : Preparation} {tally : Tally}
    (hp : Answers (tools.prepare name suite (settings.suiteDir suite.cacheDir)) s corpus s₁)
    (hv : Yields (verify tools (settings.suiteDir suite.cacheDir)) s₁ (.ok tally) own s₂) :
    let s₃ := ((conclude tools name tally).run s₂).state
    Yields (runSuite tools settings name suite) s
      (.ok (⟨name, settings.suiteDir suite.cacheDir, corpus, .ofTally tally, tally.failed,
        tools.clock s₃.world - tools.clock s.world⟩, tally))
      (.noted (.suiteStarted name (settings.suiteDir suite.cacheDir)) ::
        .preparing name (settings.suiteDir suite.cacheDir) :: corpus.notes name ++ own ++
        [.summarized name (.ofTally tally), .noted (.suiteFinished name (.ofTally tally))]) s₃ := by
  refine .of_own (.bind (.see _) (.bind (.note _) (.bind (prepare_yields hp)
    (.bind hv (.bind (conclude_yields tools name tally _) (.bind (.see _) (.pure _))))))) ?_
  simp

/-- A suite that is started in a site that is not cancelled has a session, unless an assembler
fails and `runSuite` with it. -/
theorem runSuite_cases (tools : Tools μ) (settings : Settings) (name : String) (suite : Suite)
    (hs : s.cancelled = false) :
    (∃ f own s', Fails tools f ∧ Yields (runSuite tools settings name suite) s (.error f) own s') ∨
      ∃ x : Session μ, x.before = s ∧ x.request = (name, suite) ∧ x.Held tools settings ∧
        Yields (runSuite tools settings name suite) s (.ok (x.entry settings, x.tally))
          (x.own settings) (x.left tools) := by
  obtain ⟨corpus, opened, hp⟩ : ∃ corpus opened,
      Answers (tools.prepare name suite (settings.suiteDir suite.cacheDir)) s corpus opened :=
    ⟨_, _, .intro _ _⟩
  obtain ⟨f, own, s', hfail, hv⟩ | ⟨visits, rest, s₁, c, own, hw, hh, hf, hv⟩ :=
    verify_cases tools (settings.suiteDir suite.cacheDir) opened
  · exact .inl ⟨f, _, s', hfail, .bind (.see _) (.bind (.note _) (.bind (prepare_yields hp)
      (.bind hv (.pure _))))⟩
  · let tally := ({} : Tally).addVisits visits c
    let stop : Site μ :=
      ((conclude tools name tally).run { s₁ with streams := s₁.streams.markEnd }).state
    let x : Session μ := ⟨name, suite, s, corpus, opened, visits, c, s₁,
      tools.clock stop.world - tools.clock s.world⟩
    have hfound : x.found settings = visits.map (·.artifact) ++ rest := hf
    have hheld : x.Held tools settings :=
      { started := hs
        prepared := hp
        walked := hw
        processed := ⟨rest, hfound.symm⟩
        interrupted_iff := by
          rw [hfound, hh.interrupted_iff.1]
          cases rest <;> simp [x]
        cancelled := hh.interrupted_iff.2 }
    refine .inr ⟨x, rfl, rfl, hheld, (runSuite_yields hp hv).of_own ?_⟩
    have hleft : (x.found settings).length - x.visits.length = rest.length := by
      simp [hfound, x]
    rw [Session.own, hleft, hh.own_eq]
    rfl

/-- A session is not noted among the steps but for the calls and what is written. -/
theorem Sessions.filter_isStep {sessions : List (Session μ)}
    (h : Sessions tools settings s sessions s₁) :
    (sessions.flatMap (Session.own settings)).filter Event.isStep =
      sessions.flatMap (Session.steps settings) := by
  induction h with
  | nil => rfl
  | @cons x sessions s' hx _ ih =>
    have hcorpus : (x.corpus.notes x.name).filter Event.isStep = [] := by
      cases x.corpus <;> rfl
    have hnote : (if x.interrupted then
        [Event.noted (.interrupted ((x.found settings).length - x.visits.length))]
        else []).filter Event.isStep = [] := by
      split <;> rfl
    rw [List.flatMap_cons, List.filter_append, ih, List.flatMap_cons]
    simp [Session.own, Session.steps, List.filter_cons, hcorpus, filter_isStep_opening,
      hx.walked.filter_isStep, hnote, Event.isStep]

/-- Each session of a run was held. -/
theorem Sessions.held {sessions : List (Session μ)} (h : Sessions tools settings s sessions s₁) :
    ∀ x ∈ sessions, x.Held tools settings := by
  induction h with
  | nil => simp
  | cons hx _ ih => exact List.forall_mem_cons.2 ⟨hx, ih⟩

/-- A run that holds no session leaves the site as it was. -/
theorem Sessions.eq_of_nil (h : Sessions tools settings s [] s₁) : s₁ = s := by
  cases h
  rfl

/-- Sessions begin with the first of them, in the site in which it was started. -/
theorem Sessions.head {x : Session μ} {sessions : List (Session μ)}
    (h : Sessions tools settings s (x :: sessions) s') :
    x.before = s ∧ x.Held tools settings := by
  cases h with
  | cons hx _ => exact ⟨rfl, hx⟩

/-- A session that was interrupted leaves a site that is cancelled. -/
theorem cancelled_left {x : Session μ} (h : x.Held tools settings) (hx : x.interrupted = true) :
    (x.left tools).cancelled = true := by
  rw [Session.left, (conclude_heeds x.name x.tally).flag, h.cancelled hx, Bool.true_or]

/-- No session is begun in a site that is cancelled. -/
theorem Sessions.eq_nil {sessions : List (Session μ)}
    (h : Sessions tools settings s sessions s₁) (hs : s.cancelled = true) : sessions = [] := by
  cases sessions with
  | nil => rfl
  | cons x sessions =>
    obtain ⟨rfl, hx⟩ := h.head
    cases hx.started.symm.trans hs

/-- Where a session is interrupted, the site that the sessions leave is cancelled. -/
theorem Sessions.cancelled_of_interrupted {sessions : List (Session μ)}
    (h : Sessions tools settings s sessions s₁) {x : Session μ} (hx : x ∈ sessions)
    (hint : x.interrupted = true) : s₁.cancelled = true := by
  induction h with
  | nil => cases hx
  | @cons y sessions s' hy hrest ih =>
    rcases List.mem_cons.1 hx with rfl | hx
    · have hleft := cancelled_left hy hint
      -- no session is begun behind one that was interrupted
      generalize x.left tools = left at hrest hleft
      obtain rfl := hrest.eq_nil hleft
      cases hrest with
      | nil => exact hleft
    · exact ih hx

/-- Where the site that the sessions leave is not cancelled, each examined all that it found. -/
theorem Sessions.complete {sessions : List (Session μ)}
    (h : Sessions tools settings s sessions s₁) (hflag : s₁.cancelled = false) :
    ∀ x ∈ sessions, x.visits.map (·.artifact) = x.found settings := by
  intro x hx
  refine (h.held x hx).interrupted_eq_false_iff.1 (Bool.eq_false_iff.2 fun hint => ?_)
  cases (h.cancelled_of_interrupted hx hint).symm.trans hflag

end Run

/-- A ledger with the entries of some sessions added; `stopped` says whether suites were left
out. -/
def Ledger.addSessions {μ : Type} (settings : Settings) (l : Ledger) (sessions : List (Session μ))
    (stopped : Bool) : Ledger where
  entries := l.entries ++ sessions.map (·.entry settings)
  allPassed := l.allPassed && sessions.all (·.verdict.isSuccess)
  cancelled := l.cancelled || sessions.any (·.interrupted) || stopped

/-- Adding the entry of a session and then those of others is adding all of them. -/
theorem Ledger.addSessions_add {μ : Type} (settings : Settings) (l : Ledger) (x : Session μ)
    (sessions : List (Session μ)) (stopped : Bool) :
    (l.add (x.entry settings) x.tally).addSessions settings sessions stopped =
      l.addSessions settings (x :: sessions) stopped := by
  have hx : x.tally.cancelled = x.interrupted := rfl
  simp [Ledger.add, Ledger.addSessions, Session.entry, hx, Bool.and_assoc, Bool.or_assoc]

namespace Run

variable {μ : Type} {tools : Tools μ} {settings : Settings}

/-- A suite is run, and then the others with its entry in the ledger. -/
theorem runEachSuite_yields {name : String} {suite : Suite} {suites : List (String × Suite)}
    {ledger : Ledger} {s s₁ s₂ : Site μ} {entry : SuiteEntry} {tally : Tally}
    {own₁ own₂ : List Event} {x : Attempt Ledger} (hs : s.cancelled = false)
    (h₁ : Yields (runSuite tools settings name suite) s (.ok (entry, tally)) own₁ s₁)
    (h₂ : Yields (runEachSuite tools settings suites (ledger.add entry tally)) s₁ x own₂ s₂) :
    Yields (runEachSuite tools settings ((name, suite) :: suites) ledger) s x (own₁ ++ own₂)
      s₂ := by
  refine .of_own (.bind (.see _) ?_) (List.nil_append _)
  rw [hs]
  exact .bind h₁ h₂

/-- A run over suites is that of the suites, with a note in front and one behind. -/
theorem batch_yields {generation : Generation} {runId : String} {suites : List (String × Suite)}
    {ledger : Ledger} {own : List Event} {s s' : Site μ}
    (h : Yields (runEachSuite tools settings suites {}) s (.ok ledger) own s') :
    let result := ledger.result runId suites.length (tools.clock s'.world - tools.clock s.world)
    Yields (batch tools generation settings runId suites) s (.ok result)
      (.entered generation :: .noted (.batchStarted suites.length) :: own ++
        [.noted (.batchFinished result.success result.cancelled)]) s' := by
  refine .of_own (.bind (.emit rfl) (.bind (.see _) (.bind (.note _) (.bind h (.bind (.see _)
    (.bind (.note _) (.pure _))))))) ?_
  simp

/-- A run over one suite ends with its entry. -/
theorem batch_of_runSuite (generation : Generation) (runId : String) {name : String} {suite : Suite}
    {entry : SuiteEntry} {tally : Tally} {own : List Event} {s s' : Site μ}
    (hs : s.cancelled = false)
    (h : Yields (runSuite tools settings name suite) s (.ok (entry, tally)) own s') :
    ∃ result,
      ((batch tools generation settings runId [(name, suite)]).run s).value = .ok result ∧
      result.suites = [entry] ∧
      result.success = (entry.verdict.isSuccess && !tally.cancelled) := by
  have hr : Yields (runEachSuite tools settings [(name, suite)] {}) s
      (.ok (({} : Ledger).add entry tally)) (own ++ []) s' := runEachSuite_yields hs h (.pure _)
  exact ⟨_, (batch_yields hr).value, rfl, by simp [Ledger.result, Ledger.add]⟩

/-- A run over one suite whose verification gives a tally ends with an entry about it. -/
theorem batch_of_verify (generation : Generation) (runId : String) {name : String} {suite : Suite}
    {corpus : Preparation} {tally : Tally} {own : List Event} {s s₁ s₂ : Site μ}
    (hs : s.cancelled = false)
    (hp : Answers (tools.prepare name suite (settings.suiteDir suite.cacheDir)) s corpus s₁)
    (hv : Yields (verify tools (settings.suiteDir suite.cacheDir)) s₁ (.ok tally) own s₂) :
    ∃ result entry,
      ((batch tools generation settings runId [(name, suite)]).run s).value = .ok result ∧
      result.suites = [entry] ∧ entry.verdict = .ofTally tally ∧
      entry.failedArtifacts = tally.failed ∧
      result.success = ((Verdict.ofTally tally).isSuccess && !tally.cancelled) := by
  obtain ⟨result, hresult, hsuites, hsuccess⟩ :=
    batch_of_runSuite generation runId hs (runSuite_yields hp hv)
  exact ⟨result, _, hresult, hsuites, rfl, rfl, hsuccess⟩

/-- A run over one suite whose verification an assembler stops ends there, with the failure. -/
theorem batch_of_verify_error (generation : Generation) (runId : String) {name : String}
    {suite : Suite} {corpus : Preparation} {f : Failure} {own : List Event} {s s₁ s₂ : Site μ}
    (hs : s.cancelled = false)
    (hp : Answers (tools.prepare name suite (settings.suiteDir suite.cacheDir)) s corpus s₁)
    (hv : Yields (verify tools (settings.suiteDir suite.cacheDir)) s₁ (.error f) own s₂) :
    ∃ own', Yields (batch tools generation settings runId [(name, suite)]) s (.error f) own'
      s₂ := by
  obtain ⟨own₁, hsuite⟩ :
      ∃ own₁, Yields (runSuite tools settings name suite) s (.error f) own₁ s₂ :=
    ⟨_, .bind (.see _) (.bind (.note _) (.bind (prepare_yields hp) (.bind hv (.pure _))))⟩
  have hsuites : Yields (runEachSuite tools settings [(name, suite)] {}) s (.error f) own₁ s₂ := by
    refine .of_own (.bind (.see _) ?_) (List.nil_append _)
    rw [hs]
    exact .of_own (.bind hsuite (.pure _)) (List.append_nil _)
  exact ⟨_, .bind (.emit rfl) (.bind (.see _) (.bind (.note _) (.bind hsuites (.pure _))))⟩

/-- Suites are run until none is left or the run is cancelled, unless an assembler fails. -/
theorem runEachSuite_cases (tools : Tools μ) (settings : Settings) (suites : List (String × Suite))
    (ledger : Ledger) (s : Site μ) :
    (∃ f own s', Fails tools f ∧
      Yields (runEachSuite tools settings suites ledger) s (.error f) own s') ∨
    ∃ sessions rest s', Sessions tools settings s sessions s' ∧
      suites = sessions.map Session.request ++ rest ∧ (rest ≠ [] → s'.cancelled = true) ∧
      Yields (runEachSuite tools settings suites ledger) s
        (.ok (ledger.addSessions settings sessions (!rest.isEmpty)))
        (sessions.flatMap (Session.own settings)) s' := by
  induction suites generalizing ledger s with
  | nil =>
    refine .inr ⟨[], [], s, .nil, rfl, fun h => absurd rfl h, ?_⟩
    simpa [runEachSuite, Ledger.addSessions] using Yields.pure (.ok ledger : Attempt Ledger)
  | cons row suites ih =>
    obtain ⟨name, suite⟩ := row
    by_cases hs : s.cancelled = true
    · refine .inr ⟨[], (name, suite) :: suites, s, .nil, rfl, fun _ => hs, ?_⟩
      refine .of_own (.bind (.see _) ?_) (List.nil_append _)
      rw [if_pos hs]
      simpa [Ledger.addSessions] using
        Yields.pure (.ok { ledger with cancelled := true } : Attempt Ledger)
    · rw [Bool.not_eq_true] at hs
      obtain ⟨f, own, s', hfail, hy⟩ | ⟨x, rfl, hreq, hx, hy⟩ :=
        runSuite_cases tools settings name suite hs
      · refine .inl ⟨f, own, s', hfail, .of_own (.bind (.see _) ?_) (List.nil_append _)⟩
        rw [hs]
        exact .of_own (.bind hy (.pure _)) (List.append_nil _)
      · obtain ⟨f, own, s', hfail, hr⟩ | ⟨sessions, rest, s', hr, hsuites, hstop, hrest⟩ :=
          ih (ledger.add (x.entry settings) x.tally) (x.left tools)
        · exact .inl ⟨f, _, s', hfail, runEachSuite_yields hs hy hr⟩
        · refine .inr ⟨x :: sessions, rest, s', .cons hx hr, ?_, hstop, ?_⟩
          · rw [hsuites, ← hreq]
            rfl
          · rw [Ledger.addSessions_add] at hrest
            exact runEachSuite_yields hs hy hrest

/-- A run over suites stops with the failure of an assembler, or it holds the sessions of the first
suites of the request, all of them unless it is cancelled. -/
theorem batch_cases (tools : Tools μ) (generation : Generation) (settings : Settings)
    (runId : String) (suites : List (String × Suite)) (s : Site μ) :
    (∃ f own s', Fails tools f ∧
      Yields (batch tools generation settings runId suites) s (.error f) own s') ∨
    ∃ sessions rest durationMs s', Sessions tools settings s sessions s' ∧
      suites = sessions.map Session.request ++ rest ∧ (rest ≠ [] → s'.cancelled = true) ∧
      let result := (({} : Ledger).addSessions settings sessions (!rest.isEmpty)).result runId
        suites.length durationMs
      Yields (batch tools generation settings runId suites) s (.ok result)
        (.entered generation :: .noted (.batchStarted suites.length) ::
          sessions.flatMap (Session.own settings) ++
          [.noted (.batchFinished result.success result.cancelled)]) s' := by
  obtain ⟨f, own, s', hfail, hy⟩ | ⟨sessions, rest, s', hr, hsuites, hstop, hy⟩ :=
    runEachSuite_cases tools settings suites {} s
  · exact .inl ⟨f, _, s', hfail, .bind (.emit rfl) (.bind (.see _) (.bind (.note _)
      (.bind hy (.pure _))))⟩
  · exact .inr ⟨sessions, rest, _, s', hr, hsuites, hstop, batch_yields hy⟩

/-- A run that gives a result held sessions of the first suites of the request, of all of them
unless it is cancelled. Its result and all that it does are made of them. -/
theorem batch_sessions {generation : Generation} {runId : String} {suites : List (String × Suite)}
    {s : Site μ} {result : RunResult}
    (h : ((batch tools generation settings runId suites).run s).value = .ok result) :
    ∃ sessions rest durationMs s', Sessions tools settings s sessions s' ∧
      suites = sessions.map Session.request ++ rest ∧
      result = (({} : Ledger).addSessions settings sessions (!rest.isEmpty)).result runId
        suites.length durationMs ∧
      ((batch tools generation settings runId suites).run s).events.filter Event.isOwn =
        .entered generation :: .noted (.batchStarted suites.length) ::
          sessions.flatMap (Session.own settings) ++
          [.noted (.batchFinished result.success result.cancelled)] ∧
      ((batch tools generation settings runId suites).run s).state = s' ∧
      (rest ≠ [] → s'.cancelled = true) := by
  obtain ⟨_, _, _, -, hy⟩ | ⟨sessions, rest, durationMs, s', hr, hsuites, hstop, hy⟩ :=
    batch_cases tools generation settings runId suites s
  · cases hy.value.symm.trans h
  · obtain rfl := Except.ok.inj (hy.value.symm.trans h)
    exact ⟨sessions, rest, durationMs, s', hr, hsuites, rfl, hy.own, hy.state, hstop⟩

/-- Where the flag is not set behind a run, no suite of the request is left. -/
theorem eq_of_not_cancelled {sessions : List (Session μ)} {suites rest : List (String × Suite)}
    {s : Site μ} (hsuites : suites = sessions.map Session.request ++ rest)
    (hstop : rest ≠ [] → s.cancelled = true) (hflag : s.cancelled = false) :
    sessions.map Session.request = suites := by
  have hrest : rest = [] := by
    by_contra hne
    cases (hstop hne).symm.trans hflag
  rw [hsuites, hrest, List.append_nil]

/-- A session is a success just if it found artifacts, examined all of them, and each passed. -/
theorem session_isSuccess_iff {x : Session μ} (h : x.Held tools settings) :
    x.verdict.isSuccess = true ↔
      x.found settings ≠ [] ∧ x.visits.map (·.artifact) = x.found settings ∧
        ∀ v ∈ x.visits, Passes tools v.artifact v.before := by
  have hpass : (∀ v ∈ x.visits, v.finding.isPassed = true) ↔
      ∀ v ∈ x.visits, Passes tools v.artifact v.before :=
    forall₂_congr fun v hv => (h.walked.examination hv).isPassed_iff
  rw [Session.verdict, Verdict.isSuccess_ofTally, Session.tally, Tally.failed_addVisits_eq_nil,
    Tally.total_addVisits, hpass]
  change _ ∧ _ ∧ x.interrupted = false ↔ _
  rw [h.interrupted_eq_false_iff]
  have hlen : (x.visits.map (·.artifact)).length = x.visits.length := List.length_map ..
  constructor
  · rintro ⟨hp, hne, he⟩
    refine ⟨fun h0 => hne ?_, he, hp⟩
    rw [← hlen, he, h0, List.length_nil]
  · rintro ⟨hne, he, hp⟩
    refine ⟨hp, fun h0 => hne ?_, he⟩
    rw [← he, List.map_eq_nil_iff]
    exact List.eq_nil_of_length_eq_zero h0

/-- A run that held some sessions is a success just if these are the sessions of all suites of the
request, and in each of them artifacts were found, all of them were examined, and each passed. -/
theorem Sessions.success_iff {sessions : List (Session μ)} {s s' : Site μ}
    {suites rest : List (String × Suite)} {runId : String} {durationMs : Nat}
    (h : Sessions tools settings s sessions s')
    (hsuites : suites = sessions.map Session.request ++ rest) :
    ((({} : Ledger).addSessions settings sessions (!rest.isEmpty)).result runId suites.length
        durationMs).success = true ↔
      sessions.map Session.request = suites ∧
        ∀ x ∈ sessions, x.found settings ≠ [] ∧
          x.visits.map (·.artifact) = x.found settings ∧
          ∀ v ∈ x.visits, Passes tools v.artifact v.before := by
  have hall : (∀ x ∈ sessions, x.verdict.isSuccess = true) ↔
      ∀ x ∈ sessions, x.found settings ≠ [] ∧ x.visits.map (·.artifact) = x.found settings ∧
        ∀ v ∈ x.visits, Passes tools v.artifact v.before :=
    forall₂_congr fun x hx => session_isSuccess_iff (h.held x hx)
  rw [← hall, hsuites]
  simp only [Ledger.result, Ledger.addSessions]
  cases rest with
  | nil =>
    -- a session that succeeds was not interrupted, so the flag of the ledger says nothing new
    have hint : (∀ x ∈ sessions, x.verdict.isSuccess = true) → ∀ x ∈ sessions,
        x.interrupted = false := fun hs x hx =>
      ((Verdict.isSuccess_ofTally _).1 (hs x hx)).2.2
    simpa using fun hs => hint hs
  | cons row rest => simp

/-- What a successful run means. A run that gives a result held sessions of the first suites of the
request; its steps are those of the sessions, and it reports about each of them, in order. It leaves
out a suite or an artifact only where the flag that cancels is set behind it. It is a success just
if every suite of the request had its session, and in each of them artifacts were found, all of them
were examined, and each passed: the assembler accepted its text, its reference binary was then a
file, and both binaries ended alike. -/
theorem batch_success_iff {generation : Generation} {runId : String}
    {suites : List (String × Suite)} {s : Site μ} {result : RunResult}
    (h : ((batch tools generation settings runId suites).run s).value = .ok result) :
    ∃ sessions s', Sessions tools settings s sessions s' ∧
      sessions.map Session.request <+: suites ∧
      result.suites = sessions.map (·.entry settings) ∧
      ((batch tools generation settings runId suites).run s).events.filter Event.isStep =
        sessions.flatMap (Session.steps settings) ∧
      (((batch tools generation settings runId suites).run s).state.cancelled = false →
        sessions.map Session.request = suites ∧
        ∀ x ∈ sessions, x.visits.map (·.artifact) = x.found settings) ∧
      (result.success = true ↔
        sessions.map Session.request = suites ∧
        ∀ x ∈ sessions, x.found settings ≠ [] ∧
          x.visits.map (·.artifact) = x.found settings ∧
          ∀ v ∈ x.visits, Passes tools v.artifact v.before) := by
  obtain ⟨sessions, rest, durationMs, s', hr, hsuites, rfl, hown, hstate, hstop⟩ :=
    batch_sessions h
  refine ⟨sessions, s', hr, ⟨rest, hsuites.symm⟩, ?_, ?_, fun hflag => ?_, hr.success_iff hsuites⟩
  · simp [Ledger.result, Ledger.addSessions]
  · rw [← Event.filter_isStep_filter_isOwn, hown]
    simp [hr.filter_isStep, Event.isStep]
  · rw [hstate] at hflag
    exact ⟨eq_of_not_cancelled hsuites hstop hflag, hr.complete hflag⟩

/-- A request of a directory that is not there and of the sample directory. -/
def sampleRequest : List (String × Suite) :=
  [("first", .unnamed (.ofText "/e")), ("second", .unnamed sampleRoot)]

/-- The sample tools never fail. -/
theorem not_fails_sampleTools (ending : Ending) (f : Failure) : ¬ Fails (sampleTools ending) f := by
  rintro ⟨text, s, s', h, -⟩
  exact nomatch (show (Except.ok 0 : Attempt Int32) = .error f from h)

/-- The first suite of the request finds nothing, so the run is no success. -/
theorem batch_success_iff_sample :
    ∃ result sessions s',
      ((batch (sampleTools (.exited 3)) .llvm38 {} "run" sampleRequest).run
        (sampleSite ["a.bc", "a.out.ll"])).value = .ok result ∧
      Sessions (sampleTools (.exited 3)) {} (sampleSite ["a.bc", "a.out.ll"]) sessions s' ∧
      sessions.map Session.request <+: sampleRequest ∧
      result.suites = sessions.map (·.entry {}) ∧
      (∃ x, sessions.head? = some x ∧ x.found {} = []) ∧ result.success = false := by
  obtain ⟨f, own, s', hfail, -⟩ | ⟨held, rest, _, _, hheld, hsuites, hstop, hy⟩ :=
    batch_cases (sampleTools (.exited 3)) .llvm38 {} "run" sampleRequest
      (sampleSite ["a.bc", "a.out.ll"])
  · exact absurd hfail (not_fails_sampleTools _ f)
  obtain ⟨sessions, s', hr, hp, he, -, -, hiff⟩ := batch_success_iff hy.value
  have hne : sessions ≠ [] := by
    rintro rfl
    have hnone : held = [] := by simpa [Ledger.result, Ledger.addSessions] using he
    subst hnone
    -- without a session the run would be cancelled where it begins
    have hrest : rest ≠ [] := by
      rintro rfl
      cases hsuites
    have hcancelled := hstop hrest
    rw [hheld.eq_of_nil] at hcancelled
    cases hcancelled
  obtain ⟨x, later, rfl⟩ := List.exists_cons_of_ne_nil hne
  obtain ⟨hbefore, hx⟩ := hr.head
  have hsuite : x.suite = .unnamed (.ofText "/e") :=
    congrArg Prod.snd (List.cons_prefix_cons.1 hp).1
  have hopened : x.opened = sampleSite ["a.bc", "a.out.ll"] := by
    rw [← hx.prepared.2, hbefore]
    rfl
  have hfound : x.found {} = [] := by
    rw [Session.found, Session.dir, hsuite, hopened]
    rfl
  refine ⟨_, _, s', hy.value, hr, hp, he, ⟨x, rfl, hfound⟩, ?_⟩
  rw [← Bool.not_eq_true, hiff]
  exact fun ⟨_, hall⟩ => (hall x (List.mem_cons_self ..)).1 hfound

end Run

end RoundTrip

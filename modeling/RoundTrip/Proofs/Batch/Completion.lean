import RoundTrip.Proofs.Batch.Cancellation
import RoundTrip.Proofs.Batch.Stopping

/-!
# Runs that leave nothing out

The sessions of a run tell what the run did. Here they tell what a run will do: sessions that are
held one after the other and examine all that they find are those of a run over their suites, which
comes to its end (`Sessions.runs`). So a run succeeds just if there are sessions of all its suites
in which artifacts are found and all of them pass (`batch_succeeds_iff`). A run that no assembler
stops and that nobody cancels leaves nothing out (`batch_complete`).
-/

namespace RoundTrip.Run

variable {μ : Type} {tools : Tools μ} {settings : Settings} {s s' : Site μ}
  {sessions : List (Session μ)} {generation : Generation} {runId : String}
  {suites : List (String × Suite)}

/-- All suites pass: there is a session of each, in order, and in each of them artifacts are found,
all of them are examined, and each passes. -/
def AllPass (tools : Tools μ) (settings : Settings) (suites : List (String × Suite))
    (s : Site μ) : Prop :=
  ∃ sessions s', Sessions tools settings s sessions s' ∧ sessions.map Session.request = suites ∧
    ∀ x ∈ sessions, x.found settings ≠ [] ∧ x.visits.map (·.artifact) = x.found settings ∧
      ∀ v ∈ x.visits, Passes tools v.artifact v.before

/-- A session that examines all that it finds is what `runSuite` does, but for the time it takes. -/
theorem session_runs {x : Session μ} (h : x.Held tools settings)
    (hall : x.visits.map (·.artifact) = x.found settings) :
    ∃ entry own, entry.verdict = x.verdict ∧
      Yields (runSuite tools settings x.name x.suite) x.before (.ok (entry, x.tally)) own
        (x.left tools) := by
  have hinterrupted := h.interrupted_eq_false_iff.2 hall
  have hf : found (x.dir settings) x.opened = x.visits.map (·.artifact) ++ [] := by
    rw [hall, List.append_nil, Session.found]
  have hv := h.walked.verify_yields .done hf
  have htally : x.tally = ({} : Tally).addVisits x.visits false := by
    rw [Session.tally, hinterrupted]
  have hy := runSuite_yields h.prepared hv
  rw [Session.left, Session.verdict, htally]
  exact ⟨_, _, rfl, hy⟩

/-- Sessions that examine all that they find are what `runEachSuite` does, and the ledger says
whether each of them is a success. -/
theorem Sessions.runs (h : Sessions tools settings s sessions s')
    (hall : ∀ x ∈ sessions, x.visits.map (·.artifact) = x.found settings) (ledger : Ledger) :
    ∃ ledger' own,
      Yields (runEachSuite tools settings (sessions.map Session.request) ledger) s (.ok ledger')
        own s' ∧
      ledger'.allPassed = (ledger.allPassed && sessions.all (·.verdict.isSuccess)) ∧
      ledger'.cancelled = ledger.cancelled ∧
      ledger'.entries.length = ledger.entries.length + sessions.length := by
  induction h generalizing ledger with
  | nil => exact ⟨ledger, [], .pure _, by simp⟩
  | @cons x sessions s' hx _ ih =>
    obtain ⟨hallx, hall⟩ := List.forall_mem_cons.1 hall
    obtain ⟨entry, own, hverdict, hy⟩ := session_runs hx hallx
    obtain ⟨ledger', own', hr, hpassed, hcancelled, hlength⟩ := ih hall (ledger.add entry x.tally)
    have htally : x.tally.cancelled = false := hx.interrupted_eq_false_iff.2 hallx
    refine ⟨ledger', own ++ own', runEachSuite_yields hx.started hy hr, ?_, ?_, ?_⟩
    · rw [hpassed, Ledger.add, hverdict, List.all_cons, Bool.and_assoc]
    · rw [hcancelled, Ledger.add, htally, Bool.or_false]
    · rw [hlength, Ledger.add, List.length_append, List.length_singleton, List.length_cons]
      omega

/-- A run gives a result that is a success just if all its suites pass. -/
theorem batch_succeeds_iff :
    (∃ result, ((batch tools generation settings runId suites).run s).value = .ok result ∧
      result.success = true) ↔ AllPass tools settings suites s := by
  constructor
  · rintro ⟨result, hresult, hsuccess⟩
    obtain ⟨sessions, rest, durationMs, s', hr, hsuites, rfl, -⟩ := batch_sessions hresult
    exact ⟨sessions, s', hr, (hr.success_iff hsuites).1 hsuccess⟩
  · rintro ⟨sessions, s', hr, rfl, hpass⟩
    obtain ⟨ledger, own, hy, hpassed, hcancelled, hlength⟩ :=
      hr.runs (fun x hx => (hpass x hx).2.1) {}
    have hall : sessions.all (·.verdict.isSuccess) = true :=
      List.all_eq_true.2 fun x hx => (session_isSuccess_iff (hr.held x hx)).2 (hpass x hx)
    exact ⟨_, (batch_yields hy).value, by simp [Ledger.result, hpassed, hcancelled, hlength, hall]⟩

/-- A run that is a success was not cancelled. -/
theorem cancelled_of_success {result : RunResult}
    (h : ((batch tools generation settings runId suites).run s).value = .ok result)
    (hsuccess : result.success = true) : result.cancelled = false := by
  obtain ⟨sessions, rest, durationMs, s', -, -, rfl, -⟩ := batch_sessions h
  simp_all [Ledger.result]

/-- A run whose flag is not set behind it has a session of each of its suites, in each of which all
artifacts that are found are examined, unless an assembler stops it. -/
theorem batch_complete {result : RunResult}
    (h : ((batch tools generation settings runId suites).run s).value = .ok result)
    (hflag : ((batch tools generation settings runId suites).run s).state.cancelled = false) :
    ∃ sessions s', Sessions tools settings s sessions s' ∧ sessions.map Session.request = suites ∧
      ∀ x ∈ sessions, x.visits.map (·.artifact) = x.found settings := by
  obtain ⟨sessions, rest, _, s', hr, hsuites, -, -, hstate, hstop⟩ := batch_sessions h
  rw [hstate] at hflag
  exact ⟨sessions, s', hr, eq_of_not_cancelled hsuites hstop hflag, hr.complete hflag⟩

/-- A failure that is recorded is one of the assembler. -/
theorem fails_of_recorded {call : Path × Attempt Int32} {f : Failure}
    (hcall : call ∈ ((batch tools.recorded generation settings runId suites).run
      s.recording).state.record) (hf : call.2 = .error f) : Fails tools f := by
  have hfailure : call.2.failure? = some f := by rw [hf]; rfl
  obtain ⟨-, -, ⟨-, hfree⟩ | ⟨g, front, text, earlier, said, hvalue, -, hkept, hfree⟩⟩ :=
    batch_recorded tools generation settings runId suites s
  · cases (hfree call hcall).symm.trans hfailure
  · rw [hkept, List.mem_append, List.mem_singleton] at hcall
    obtain hcall | rfl := hcall
    · cases (hfree call hcall).symm.trans hfailure
    · obtain rfl := Except.error.inj hf
      obtain ⟨f', _, _, hfails, hy⟩ | ⟨_, _, _, _, -, -, -, hy⟩ :=
        batch_cases tools generation settings runId suites s
      · obtain rfl := Except.error.inj (hy.value.symm.trans hvalue)
        exact hfails
      · cases hy.value.symm.trans hvalue

/-- No failure is recorded just if the run gives a result. -/
theorem recorded_free_iff :
    (∀ call ∈ ((batch tools.recorded generation settings runId suites).run
      s.recording).state.record, call.2.failure? = none) ↔
    ∃ result, ((batch tools generation settings runId suites).run s).value = .ok result := by
  obtain ⟨-, -, ⟨hresult, hfree⟩ | ⟨f, _, text, earlier, _, hvalue, -, hkept, -⟩⟩ :=
    batch_recorded tools generation settings runId suites s
  · exact iff_of_true hfree hresult
  · refine iff_of_false (fun h => ?_) ?_
    · have hcall := h (text, .error f) (by rw [hkept]; simp)
      cases hcall
    · rintro ⟨result, hok⟩
      cases hok.symm.trans hvalue

end RoundTrip.Run

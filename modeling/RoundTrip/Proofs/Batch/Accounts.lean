import Mathlib.Data.List.Basic
import RoundTrip.Proofs.Batch.Cancellation

/-!
# The accounts of a run

What a run found out is written down several times: the verdict about a suite holds counts, lines
of text and a kind, its entry holds the artifacts that fail, the result of the run holds a flag and
an exit status, and the report repeats the entries. `SuiteEntry.Balanced` says how the accounts of
one entry agree; `Session.balanced` has it from the tally that all of them are made of, and
`batch_balanced` adds those of the run as a whole.
-/

namespace RoundTrip

/-! ## Entries -/

/-- The accounts of an entry agree, of which so many artifacts were processed; `complete` says
whether these are all that were found. -/
structure SuiteEntry.Balanced (e : SuiteEntry) (processed : Nat) (complete : Prop) : Prop where
  /-- What was counted are the artifacts that were processed. -/
  total_eq : e.verdict.total = processed
  /-- Each of them passes or fails. -/
  passed_add_failed : e.verdict.passed + e.verdict.failed = e.verdict.total
  /-- Each of those that fail is kept. -/
  length_failedArtifacts : e.failedArtifacts.length = e.verdict.failed
  /-- There is a line for each of them. -/
  length_failures : e.verdict.failures.length = e.failedArtifacts.length
  /-- The lines are numbered from 0 and show the paths. -/
  failures_eq : ∀ (i : Nat) (f : Failed), e.failedArtifacts[i]? = some f →
    e.verdict.failures[i]? = some (toString i ++ ") " ++ f.path.display)
  /-- The exit status says whether the suite passes. -/
  exitCode_eq_zero_iff : e.verdict.exitCode = 0 ↔ e.verdict.isSuccess = true
  /-- The suite passes just if no artifact fails, some passes and none is left out. -/
  isSuccess_iff :
    e.verdict.isSuccess = true ↔ e.verdict.failed = 0 ∧ 0 < e.verdict.passed ∧ complete

namespace Verdict

/-- The exit status of a suite that passes is 0, and that of all others is not. -/
theorem exitCode_eq_zero_iff (v : Verdict) : v.exitCode = 0 ↔ v.isSuccess = true := by
  rw [exitCode]
  split
  · next h => exact ⟨fun _ => h, fun _ => rfl⟩
  · next h => exact ⟨fun h₀ => absurd h₀ (by decide), fun hs => absurd hs h⟩

/-- There is a line for each path. -/
theorem length_numbered (n : Nat) (paths : List Path) :
    (numbered n paths).length = paths.length := by
  induction paths generalizing n with
  | nil => rfl
  | cons path paths ih => rw [numbered, List.length_cons, List.length_cons, ih]

/-- The lines show the paths, and their numbers go up by one. -/
theorem getElem?_numbered (n : Nat) (paths : List Path) (i : Nat) :
    (numbered n paths)[i]? = paths[i]?.map fun p => toString (n + i) ++ ") " ++ p.display := by
  induction paths generalizing n i with
  | nil => rfl
  | cons path paths ih =>
    cases i with
    | zero => rfl
    | succ i =>
      rw [numbered, List.getElem?_cons_succ, List.getElem?_cons_succ, ih]
      have hnumber : n + 1 + i = n + (i + 1) := by omega
      rw [hnumber]

end Verdict

/-- The accounts of a session agree. -/
theorem Session.Held.balanced {μ : Type} {tools : Tools μ} {settings : Settings} {x : Session μ}
    (h : x.Held tools settings) : (x.entry settings).Balanced x.visits.length
      (x.visits.map (·.artifact) = x.found settings) where
  total_eq := Tally.total_addVisits x.visits x.interrupted
  passed_add_failed := rfl
  length_failedArtifacts := rfl
  length_failures := by
    have hlines := Verdict.length_numbered 0 x.tally.pathsOfFailed
    rw [Tally.pathsOfFailed, List.length_map] at hlines
    exact hlines
  failures_eq i f hf := by
    have hline := Verdict.getElem?_numbered 0 x.tally.pathsOfFailed i
    have hf : x.tally.failed[i]? = some f := hf
    rw [Tally.pathsOfFailed, List.getElem?_map, hf, Nat.zero_add] at hline
    exact hline
  exitCode_eq_zero_iff := x.verdict.exitCode_eq_zero_iff
  isSuccess_iff := by
    have hsuccess := Verdict.isSuccess_ofTally x.tally
    rw [← List.length_eq_zero_iff, Tally.total, show x.tally.cancelled = x.interrupted from rfl,
      h.interrupted_eq_false_iff] at hsuccess
    refine hsuccess.trans (and_congr_right fun hfailed => and_congr_left fun _ => ?_)
    -- with no artifact that fails, those that were examined are those that pass
    rw [hfailed, Nat.add_zero]
    exact Nat.pos_iff_ne_zero.symm

/-! ## Counts of entries -/

/-- There are no more entries about suites that pass than there are entries. -/
theorem countPassed_le (entries : List SuiteEntry) : countPassed entries ≤ entries.length :=
  List.length_filter_le ..

/-- Each entry is about a suite that passes or about one that does not. -/
theorem countPassed_add_countFailed (entries : List SuiteEntry) :
    countPassed entries + countFailed entries = entries.length :=
  Nat.add_sub_cancel' (countPassed_le entries)

/-- What is left of the entries are those about suites that do not pass. -/
theorem countFailed_eq (entries : List SuiteEntry) :
    countFailed entries = (entries.filter fun e => !e.verdict.isSuccess).length := by
  have hsplit := List.length_eq_length_filter_add (l := entries) fun e => e.verdict.isSuccess
  rw [countFailed, countPassed, hsplit, Nat.add_sub_cancel_left]

/-- All entries are about suites that pass just if none is not. -/
theorem countPassed_eq_length_iff (entries : List SuiteEntry) :
    countPassed entries = entries.length ↔ ∀ e ∈ entries, e.verdict.isSuccess = true := by
  rw [countPassed, List.length_filter_eq_length_iff]

/-- The exit status of a run that is a success is 0, and that of all others is not. -/
theorem RunResult.exitCode_eq_zero_iff (r : RunResult) : r.exitCode = 0 ↔ r.success = true := by
  rw [exitCode]
  cases r.success <;> simp

namespace Run

variable {μ : Type} {tools : Tools μ} {settings : Settings} {s : Site μ}

/-- Of a run that is a success, every suite of the request has an entry, and all of them pass. -/
theorem countPassed_of_success {sessions : List (Session μ)} {s' : Site μ}
    {suites rest : List (String × Suite)} {runId : String} {durationMs : Nat}
    (h : Sessions tools settings s sessions s')
    (hsuites : suites = sessions.map Session.request ++ rest)
    (hsuccess : ((({} : Ledger).addSessions settings sessions (!rest.isEmpty)).result runId
      suites.length durationMs).success = true) :
    countPassed (sessions.map (·.entry settings)) = suites.length := by
  obtain ⟨hall, hpass⟩ := (h.success_iff hsuites).1 hsuccess
  have hlength : suites.length = (sessions.map (·.entry settings)).length := by
    rw [← hall, List.length_map, List.length_map]
  rw [hlength, countPassed_eq_length_iff]
  intro e he
  obtain ⟨x, hx, rfl⟩ := List.mem_map.1 he
  exact (session_isSuccess_iff (h.held x hx)).2 (hpass x hx)

/-- The accounts of a run that gives a result agree. There is an entry for each session, and its
accounts agree with each other and with what was done to the artifacts of the session. The entries
about suites that pass and those about suites that do not are all entries, in the result as in the
report that is made of it. The exit status says whether the run is a success, and if it is, all
suites of the request pass. -/
theorem batch_balanced {generation : Generation} {runId : String}
    {suites : List (String × Suite)} {result : RunResult}
    (h : ((batch tools generation settings runId suites).run s).value = .ok result)
    (label : String) (generatedAt : Timestamp) :
    let report := result.report label generatedAt
    (∃ sessions s', Sessions tools settings s sessions s' ∧
      sessions.map Session.request <+: suites ∧
      ((batch tools generation settings runId suites).run s).events.filter Event.isStep =
        sessions.flatMap (Session.steps settings) ∧
      result.suites = sessions.map (·.entry settings) ∧
      ∀ x ∈ sessions, (x.entry settings).Balanced x.visits.length
        (x.visits.map (·.artifact) = x.found settings)) ∧
    countPassed report.suites = countPassed result.suites ∧
    countFailed report.suites = countFailed result.suites ∧
    countPassed result.suites ≤ result.suites.length ∧
    countPassed result.suites + countFailed result.suites = result.suites.length ∧
    countFailed result.suites = (result.suites.filter fun e => !e.verdict.isSuccess).length ∧
    (result.exitCode = 0 ↔ result.success = true) ∧ report.success = result.success ∧
    (result.success = true → countPassed result.suites = suites.length) := by
  obtain ⟨sessions, rest, durationMs, s', hr, hsuites, rfl, hown, -⟩ := batch_sessions h
  have hentries : ((({} : Ledger).addSessions settings sessions (!rest.isEmpty)).result runId
      suites.length durationMs).suites = sessions.map (·.entry settings) := by
    simp [Ledger.result, Ledger.addSessions]
  refine ⟨⟨sessions, s', hr, ⟨rest, hsuites.symm⟩, ?_, hentries,
    fun x hx => (hr.held x hx).balanced⟩, rfl, rfl, countPassed_le _,
    countPassed_add_countFailed _, countFailed_eq _, RunResult.exitCode_eq_zero_iff _, rfl, ?_⟩
  · rw [← Event.filter_isStep_filter_isOwn, hown]
    simp [hr.filter_isStep, Event.isStep]
  · intro hsuccess
    rw [hentries]
    exact countPassed_of_success hr hsuites hsuccess

/-- A request of the sample directory. -/
def halfRequest : List (String × Suite) := [("half", .unnamed sampleRoot)]

/-- Of the directory in which the reference of the second artifact is missing, one passes and one
fails. -/
def halfTally : Tally :=
  ⟨[(sampleArtifact "a").text], [⟨(sampleArtifact "b").text, .referenceMissing⟩], false⟩

/-- A run over the directory gives a result with one entry. -/
theorem batch_half : ∃ result entry,
    ((batch (sampleTools (.exited 3)) .llvm38 {} "run" halfRequest).run
      (sampleSite ["a.bc", "a.out.ll", "b.out.ll"])).value = .ok result ∧
    result.suites = [entry] ∧ entry.verdict = .ofTally halfTally ∧
    entry.failedArtifacts = halfTally.failed := by
  have hv : Yields (verify (sampleTools (.exited 3)) sampleRoot)
      (sampleSite ["a.bc", "a.out.ll", "b.out.ll"]) (.ok halfTally) _ _ :=
    ⟨verify_halfSample, rfl, rfl⟩
  have hp : Answers ((sampleTools (.exited 3)).prepare "half" (.unnamed sampleRoot) sampleRoot)
      (sampleSite ["a.bc", "a.out.ll", "b.out.ll"]) .skipped
      (sampleSite ["a.bc", "a.out.ll", "b.out.ll"]) := ⟨rfl, rfl⟩
  obtain ⟨result, entry, hresult, hsuites, hverdict, hfailed, -⟩ :=
    batch_of_verify .llvm38 "run" rfl hp hv
  exact ⟨result, entry, hresult, hsuites, hverdict, hfailed⟩

theorem batch_balanced_sample : ∃ result entry,
    ((batch (sampleTools (.exited 3)) .llvm38 {} "run" halfRequest).run
      (sampleSite ["a.bc", "a.out.ll", "b.out.ll"])).value = .ok result ∧
    result.suites = [entry] ∧ entry.verdict.failures = ["0) /d/b.out.ll"] ∧
    entry.verdict.isSuccess = false ∧ countPassed result.suites + countFailed result.suites = 1 ∧
    ∃ sessions s', Sessions (sampleTools (.exited 3)) {}
        (sampleSite ["a.bc", "a.out.ll", "b.out.ll"]) sessions s' ∧
      ∀ x ∈ sessions, (x.entry {}).Balanced x.visits.length
        (x.visits.map (·.artifact) = x.found {}) := by
  obtain ⟨result, entry, hok, hsuites, hverdict, -⟩ := batch_half
  obtain ⟨⟨sessions, s', hr, -, -, -, hbalanced⟩, -, -, -, hsum, -⟩ :=
    batch_balanced hok "3.8" ⟨2024, 1, 1, 0, 0, 0, 0⟩
  rw [hsuites] at hsum
  refine ⟨result, entry, hok, hsuites, ?_, ?_, hsuites ▸ hsum, sessions, s', hr, hbalanced⟩
  · rw [hverdict]
    decide +kernel
  · rw [hverdict]
    rfl

end Run

end RoundTrip

import RoundTrip.Report
import RoundTrip.Settings
import RoundTrip.Verification

/-!
# Runs over several suites

Suites are run in the order of the request. Each is prepared, verified and summarized; one that
fails stops nothing, and neither does a corpus that cannot be prepared, whose directory is then
verified as it is. The run looks whether it was cancelled before each suite, and it is a success
if every suite of the request was started and passes.
-/

namespace RoundTrip

/-- What is known of a run so far. -/
structure Ledger where
  /-- The entries about the suites so far. -/
  entries : List SuiteEntry := []
  /-- Whether all of them pass. -/
  allPassed : Bool := true
  /-- Whether something was left out because the run was cancelled. -/
  cancelled : Bool := false
  deriving DecidableEq, Inhabited

/-- Adds the entry about a suite whose artifacts were tallied. -/
def Ledger.add (l : Ledger) (e : SuiteEntry) (tally : Tally) : Ledger where
  entries := l.entries ++ [e]
  allPassed := l.allPassed && e.verdict.isSuccess
  cancelled := l.cancelled || tally.cancelled

/-- The result of a run of which `requested` suites were asked for. -/
def Ledger.result (l : Ledger) (runId : String) (requested durationMs : Nat) : RunResult where
  runId := runId
  success := l.allPassed && !l.cancelled && l.entries.length == requested
  cancelled := l.cancelled
  suites := l.entries
  durationMs := durationMs

namespace Run

variable {μ : Type}

/-- Prepares the corpus of a suite, with a note if that fails. The note is made here from the status,
and not by the tool that runs the commands of a recipe (`Recipe.prepare`). Of the two ways to
prepare a corpus only this one can fail, and the note is the last thing that it does then, so the
events are the same, in the same order. -/
def prepare (tools : Tools μ) (name : String) (suite : Suite) (dir : Path) :
    Run μ Preparation := do
  Act.emit (.preparing name dir)
  let status ← perform (tools.prepare name suite dir)
  match status with
  | .failed stage code => note (.corpusFailed name stage code)
  | _ => pure ()
  pure status

/-- Summarizes a suite whose artifacts were tallied. -/
def conclude (tools : Tools μ) (name : String) (tally : Tally) : Run μ Verdict := do
  let verdict := Verdict.ofTally tally
  summarize tools name verdict
  note (.suiteFinished name verdict)
  pure verdict

/-- Runs a suite: its entry and the tally of its artifacts. -/
def runSuite (tools : Tools μ) (settings : Settings) (name : String) (suite : Suite) :
    Run μ (Attempt (SuiteEntry × Tally)) := do
  let start ← now tools
  let dir := settings.suiteDir suite.cacheDir
  note (.suiteStarted name dir)
  let corpus ← prepare tools name suite dir
  match ← verify tools dir with
  | .error f => pure (.error f)
  | .ok tally =>
    let verdict ← conclude tools name tally
    let stop ← now tools
    pure (.ok (⟨name, dir, corpus, verdict, tally.failed, stop - start⟩, tally))

/-- Runs suites in order until the run is cancelled. -/
def runEachSuite (tools : Tools μ) (settings : Settings) :
    List (String × Suite) → Ledger → Run μ (Attempt Ledger)
  | [], ledger => pure (.ok ledger)
  | (name, suite) :: rest, ledger => do
    if ← isCancelled then
      pure (.ok { ledger with cancelled := true })
    else
      match ← runSuite tools settings name suite with
      | .error f => pure (.error f)
      | .ok (entry, tally) => runEachSuite tools settings rest (ledger.add entry tally)

/-- Runs the suites of a request, under a name. -/
def batch (tools : Tools μ) (generation : Generation) (settings : Settings) (runId : String)
    (suites : List (String × Suite)) : Run μ (Attempt RunResult) := do
  Act.emit (.entered generation)
  let start ← now tools
  note (.batchStarted suites.length)
  match ← runEachSuite tools settings suites {} with
  | .error f => pure (.error f)
  | .ok ledger =>
    let stop ← now tools
    let result := ledger.result runId suites.length (stop - start)
    note (.batchFinished result.success result.cancelled)
    pure (.ok result)

end Run

end RoundTrip

import RoundTrip.Preparation
import RoundTrip.Timestamp
import RoundTrip.Verdict

/-!
# Reports

What is kept of a run: an entry for each suite that was started, in the order of the request, and
whether the run as a whole is a success.
-/

namespace RoundTrip

/-- The entry of a report about one suite. -/
structure SuiteEntry where
  /-- The name of the suite. -/
  suite : String
  /-- Its directory. -/
  cacheDir : Path
  /-- How its corpus was prepared. -/
  corpus : Preparation
  /-- The verdict about it. -/
  verdict : Verdict
  /-- Its artifacts that fail. -/
  failedArtifacts : List Failed
  /-- How many milliseconds it took. -/
  durationMs : Nat
  deriving DecidableEq, Inhabited

/-- How many entries are about suites that pass. -/
def countPassed (entries : List SuiteEntry) : Nat :=
  (entries.filter (·.verdict.isSuccess)).length

/-- How many entries are about suites that do not pass. -/
def countFailed (entries : List SuiteEntry) : Nat := entries.length - countPassed entries

/-- A report about a run. -/
structure Report where
  /-- The name of the run. -/
  runId : String
  /-- The label of the generation. -/
  generation : String
  /-- When the report was made. -/
  generatedAt : Timestamp
  /-- Whether every suite of the request was started and passes. -/
  success : Bool
  /-- The entries about the suites. -/
  suites : List SuiteEntry
  /-- How many milliseconds the run took. -/
  durationMs : Nat
  deriving DecidableEq, Inhabited

/-- How a run over several suites ended. -/
structure RunResult where
  /-- The name of the run. -/
  runId : String
  /-- Whether every suite of the request was started and passes. -/
  success : Bool
  /-- Whether the run was cancelled before its end. -/
  cancelled : Bool
  /-- The entries about the suites that were started. -/
  suites : List SuiteEntry
  /-- How many milliseconds the run took. -/
  durationMs : Nat
  deriving DecidableEq, Inhabited

namespace RunResult

/-- The exit status of a run. -/
def exitCode (r : RunResult) : Nat := if r.success then 0 else 1

/-- The report about a run of a generation, made at a point in time. -/
def report (r : RunResult) (generation : String) (generatedAt : Timestamp) : Report where
  runId := r.runId
  generation := generation
  generatedAt := generatedAt
  success := r.success
  suites := r.suites
  durationMs := r.durationMs

end RunResult

end RoundTrip

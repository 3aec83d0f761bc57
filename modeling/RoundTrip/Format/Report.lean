import RoundTrip.Format.Findings
import RoundTrip.Json.Writer
import RoundTrip.Report
import RoundTrip.Timestamp.Reader

/-!
# The JSON form of a report

The way a corpus was prepared is a choice tagged by `status`. A report is written indented
(`Report.pretty?`); writing fails only on a path that is no text.
-/

namespace RoundTrip

open Json (record)

namespace Stage

/-- The form of a stage. -/
def toJson (s : Stage) : Json := .str s.name

/-- The stage of a name. -/
def ofName? (name : String) : Option Stage := all.find? (·.name == name)

/-- Reads a stage. -/
def ofJson? (j : Json) : Option Stage := j.bareChoice?.bind ofName?

/-- Reads a stage inside a tagged choice. -/
def ofInnerJson? (j : Json) : Option Stage := j.innerBareChoice?.bind ofName?

end Stage

namespace Preparation

/-- The form of a preparation. -/
def toJson : Preparation → Json
  | .skipped => record [("status", .str "skipped")]
  | .prepared => record [("status", .str "prepared")]
  | .failed stage code =>
    record [("status", .str "failed"), ("step", stage.toJson), ("exit_code", int32Json code)]

/-- Reads a preparation inside `opened` arrays and objects. -/
def ofJson? (opened : Nat) (j : Json) : Option Preparation := do
  let (name, content) ← j.tagged? "status" opened
  match name with
  | "skipped" => if content.isFieldless then some .skipped else none
  | "prepared" => if content.isFieldless then some .prepared else none
  | "failed" =>
    match ← content.fields? .full ["step", "exit_code"] with
    | [some stage, some code] => some (.failed (← Stage.ofInnerJson? stage) (← code.int32?))
    | _ => none
  | _ => none

end Preparation

namespace VerdictClass

/-- The kinds of verdict. -/
def all : List VerdictClass := [.passed, .failed, .empty, .cancelled]

/-- The form of a kind of verdict. -/
def toJson (k : VerdictClass) : Json := .str k.name

/-- Reads a kind of verdict. -/
def ofJson? (j : Json) : Option VerdictClass := do
  let name ← j.bareChoice?
  all.find? (·.name == name)

end VerdictClass

namespace Verdict

/-- The form of a verdict. -/
def toJson (v : Verdict) : Json :=
  record [("kind", v.kind.toJson), ("total", countJson v.total), ("passed", countJson v.passed),
    ("failed", countJson v.failed), ("message", .str v.message), ("failures", .texts v.failures)]

/-- Reads a verdict. -/
def ofJson? (j : Json) : Option Verdict := do
  match ← j.fields? .full ["kind", "total", "passed", "failed", "message", "failures"] with
  | [some kind, some total, some passed, some failed, some message, some failures] =>
    some ⟨← VerdictClass.ofJson? kind, ← total.count?, ← passed.count?, ← failed.count?,
      ← message.text?, ← failures.texts?⟩
  | _ => none

end Verdict

namespace SuiteEntry

/-- The form of an entry. -/
def toJson? (e : SuiteEntry) : Option Json := do
  some (record [("suite", .str e.suite), ("cache_dir", ← e.cacheDir.toJson?),
    ("corpus", e.corpus.toJson), ("verdict", e.verdict.toJson),
    ("failed_artifacts", .list (← e.failedArtifacts.mapM Failed.toJson?)),
    ("duration_ms", countJson e.durationMs)])

/-- Reads an entry inside `opened` arrays and objects. -/
def ofJson? (opened : Nat) (j : Json) : Option SuiteEntry := do
  match ← j.fields? .full
      ["suite", "cache_dir", "corpus", "verdict", "failed_artifacts", "duration_ms"] with
  | [some suite, some cacheDir, some corpus, some verdict, some failed, some duration] =>
    some ⟨← suite.text?, ← Path.ofJson? cacheDir, ← Preparation.ofJson? (opened + 1) corpus,
      ← Verdict.ofJson? verdict, ← failed.listOf? (Failed.ofJson? (opened + 2)),
      ← duration.count?⟩
  | _ => none

end SuiteEntry

/-- The form of a point in time. -/
def Timestamp.toJson (t : Timestamp) : Json := .str t.text

/-- Reads a point in time. -/
def Timestamp.ofJson? (j : Json) : Option Timestamp := j.text?.bind ofText?

namespace Report

/-- The form of a report. -/
def toJson? (r : Report) : Option Json := do
  some (record [("run_id", .str r.runId), ("generation", .str r.generation),
    ("generated_at", r.generatedAt.toJson), ("success", .bool r.success),
    ("suites", .list (← r.suites.mapM SuiteEntry.toJson?)),
    ("duration_ms", countJson r.durationMs)])

/-- Reads a report. -/
def ofJson? (j : Json) : Option Report := do
  match ← j.fields? .full
      ["run_id", "generation", "generated_at", "success", "suites", "duration_ms"] with
  | [some runId, some generation, some generatedAt, some success, some suites, some duration] =>
    some ⟨← runId.text?, ← generation.text?, ← Timestamp.ofJson? generatedAt, ← success.bool?,
      ← suites.listOf? (SuiteEntry.ofJson? 2), ← duration.count?⟩
  | _ => none

/-- The text of a report as it is written to a file. -/
def pretty? (r : Report) : Option String := r.toJson?.map Json.pretty

end Report

end RoundTrip

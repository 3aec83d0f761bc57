import RoundTrip.Generation
import RoundTrip.Remark

/-!
# The events of a run

Everything that a run does to the outside, in order: its calls of tools with the remarks that the
tools make, what it notes in the log, the marks and summaries that it writes. All that a user sees
or a caller asks for is a projection of this one list.
-/

namespace RoundTrip

/-- What a run notes in the log. -/
inductive Notice where
  /-- A directory is about to be verified. -/
  | verifying (root : Path)
  /-- The directory does not exist. -/
  | rootMissing (root : Path)
  /-- A directory cannot be listed. -/
  | unlisted (dir : Path) (reason : Reason)
  /-- So many artifacts were discovered. -/
  | discovered (count : Nat)
  /-- The run was cancelled, with so many artifacts left. -/
  | interrupted (remaining : Nat)
  /-- There is no reference binary. -/
  | referenceMissing (path : Path)
  /-- Both binaries of an artifact ran. -/
  | interpreted (text : Path) (reference regenerated : Ending)
  /-- An artifact was examined. -/
  | verified (text : Path) (finding : Finding)
  /-- A run over so many suites begins. -/
  | batchStarted (suites : Nat)
  /-- A suite begins. -/
  | suiteStarted (suite : String) (cacheDir : Path)
  /-- A stage of preparing the corpus of a suite failed. -/
  | corpusFailed (suite : String) (stage : Stage) (code : Int32)
  /-- A suite is over. -/
  | suiteFinished (suite : String) (verdict : Verdict)
  /-- A run over some suites is over. -/
  | batchFinished (success cancelled : Bool)
  /-- The tools for a generation were found. -/
  | toolsResolved (assembler interpreter : Path) (generation : Generation)
  /-- The report was written. -/
  | reportWritten (path : Path)

/-- What a run does to the outside. -/
inductive Event where
  /-- A tool makes a remark. -/
  | remark (r : Remark)
  /-- The assembler is called. -/
  | assembling (text : Path)
  /-- The interpreter is called. -/
  | interpreting (binary : Path)
  /-- The corpus of a suite is prepared. -/
  | preparing (suite : String) (cacheDir : Path)
  /-- All that follows belongs to a run over suites of a generation. -/
  | entered (generation : Generation)
  /-- The run notes something in the log. -/
  | noted (n : Notice)
  /-- The mark of an artifact is written. -/
  | marked (passed : Bool)
  /-- The end of the marks of a suite is written. -/
  | marksEnded
  /-- The summary of a suite is written. -/
  | summarized (suite : String) (verdict : Verdict)
  /-- A text is written to a stream. -/
  | said (channel : Channel) (text : String)

namespace Notice

/-- The records of what was found out about an artifact. -/
def verifiedRecord (text : Path) (finding : Finding) : LogRecord :=
  { level := .debug
    target := "irbuilder_harness::obs"
    fields := [("event", .text "artifact.verified"), ("path", .text text.display),
      ("passed", .bool finding.isPassed),
      match finding with
      | .passed ending => ("outcome", .text ending.text)
      | .failed fault => ("cause", .text fault.text)] }

/-- The record of a step in the life of a run, which has a name and no message. -/
def stepRecord (level : Level) (event : String) (fields : List (String × FieldValue))
    (fleeting : List String := []) : LogRecord :=
  { level, target := "irbuilder_harness::obs", fields := ("event", .text event) :: fields, fleeting }

/-- The log records of a notice. -/
def records : Notice → List LogRecord
  | .verifying root =>
    [.say .info "irbuilder_harness::verifier" "Testing Reassembly" [("root", .text root.display)]]
  | .rootMissing root =>
    [.say .warn "irbuilder_harness::artifact" "Suite cache directory does not exist"
      [("root", .text root.display)]]
  | .unlisted dir reason =>
    [.say .warn "irbuilder_harness::artifact" "Skipping unreadable directory"
      [("dir", .text dir.display), ("error", .text reason.text)]]
  | .discovered count =>
    [.say .debug "irbuilder_harness::verifier" "Discovered regenerated artifacts"
      [("count", .int count)]]
  | .interrupted remaining =>
    [.say .warn "irbuilder_harness::verifier" "Verification cancelled"
      [("remaining", .int remaining)]]
  | .referenceMissing path =>
    [.say .warn "irbuilder_harness::verifier" "Reference bitcode missing"
      [("reference", .text path.display)]]
  | .interpreted text reference regenerated =>
    [.say .debug "irbuilder_harness::verifier" "Interpreted both binaries"
      [("artifact", .text text.display), ("reference", .text reference.text),
        ("regenerated", .text regenerated.text)]]
  | .verified text finding => [verifiedRecord text finding]
  | .batchStarted suites =>
    [.say .info "irbuilder_harness::batch" "Starting round-trip batch" [("suites", .int suites)]
      ["run_id"]]
  | .suiteStarted suite cacheDir =>
    [stepRecord .info "suite.started" [("suite", .text suite),
      ("cache_dir", .text cacheDir.display)]]
  | .corpusFailed suite stage code =>
    let fields : List (String × FieldValue) :=
      [("suite", .text suite), ("step", .text stage.name), ("exit_code", .int code.toInt)]
    [.say .warn "irbuilder_harness::corpus"
      "Corpus preparation failed; verifying existing artifacts" fields,
      stepRecord .warn "corpus.failed" fields]
  | .suiteFinished suite verdict =>
    [stepRecord .info "suite.finished" [("suite", .text suite),
      ("total", .int verdict.total), ("failed", .int verdict.failed),
      ("success", .bool verdict.isSuccess)] ["duration_ms"]]
  | .batchFinished success cancelled =>
    if success then
      [.say .info "irbuilder_harness::batch" "Round-trip batch passed" [] ["run_id"]]
    else
      [.say .info "irbuilder_harness::batch" "Round-trip batch failed"
        [("cancelled", .bool cancelled)] ["run_id"]]
  | .toolsResolved assembler interpreter generation =>
    [.say .info "irbuilder" "Resolved toolchain" [("assembler", .text assembler.display),
      ("interpreter", .text interpreter.display), ("generation", .text generation.label)]]
  | .reportWritten path =>
    [.say .info "irbuilder" "Report written" [("path", .text path.display)]]

end Notice

namespace Event

/-- The log records of an event. -/
def records : Event → List LogRecord
  | .remark r => r.record?.toList
  | .noted n => n.records
  | _ => []

/-- The span of a run over suites of a generation. -/
def spanOf (g : Generation) : LogSpan where
  target := "irbuilder_harness::obs"
  name := "irbuilder.run"
  fields := [("run_id", none), ("generation", some (.text g.label))]

/-- The log records of some events, each with the span that it lies in; `around` is the span that
the first of them lie in. A span ends with the run over suites. -/
def spanned (around : Option LogSpan) : List Event → List (Option LogSpan × LogRecord)
  | [] => []
  | .entered g :: rest => spanned (some (spanOf g)) rest
  | .noted (.batchFinished success cancelled) :: rest =>
    (Notice.records (.batchFinished success cancelled)).map (around, ·) ++ spanned none rest
  | e :: rest => e.records.map (around, ·) ++ spanned around rest

/-- What an event writes to the streams of a program that shows everything. -/
def output : Event → Option (Channel × Bytes)
  | .remark (.printed channel bytes) => some (channel, bytes)
  | .marked passed => some (.out, Utf8.encode (markText passed))
  | .marksEnded => some (.out, Utf8.encode "\n")
  | .summarized _ verdict =>
    some (verdict.channel, Utf8.encode (String.join (verdict.lines.map (· ++ "\n"))))
  | .said channel text => some (channel, Utf8.encode text)
  | _ => none

/-- What some events write to a stream. -/
def written (channel : Channel) (events : List Event) : Bytes :=
  (events.filterMap output).flatMap fun (c, bytes) => if c = channel then bytes else []

end Event

end RoundTrip

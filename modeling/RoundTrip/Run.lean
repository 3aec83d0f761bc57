import RoundTrip.Event
import RoundTrip.Suite

/-!
# Runs

A run acts on a site: the world of the tools, whether the run was cancelled, and the streams for
marks and summaries. A run lets tools act on the world (`Run.perform`) and keeps their remarks
among its events; a tool that asks for the run to be cancelled sets the flag, and nothing ever
clears it.
-/

namespace RoundTrip

/-- What a run acts on. -/
structure Site (μ : Type) where
  /-- The world of the tools. -/
  world : World μ
  /-- Whether the run was cancelled. -/
  cancelled : Bool := false
  /-- The streams for marks and summaries. -/
  streams : Streams := {}

/-- An action of a run. -/
abbrev Run (μ α : Type) : Type := Act Event (Site μ) α

/-- The tools of a run, and what happens besides when it writes. -/
structure Tools (μ : Type) where
  /-- Assembles the text at a path and gives the status of the assembler. -/
  assemble : Path → Tool μ (Attempt Int32)
  /-- Runs the binary at a path. -/
  interpret : Path → Tool μ Ending
  /-- Prepares the corpus of a suite, given its name and its directory. -/
  prepare : String → Suite → Path → Tool μ Preparation
  /-- Happens after the mark of an artifact was written. -/
  afterMark : Bool → Tool μ Unit
  /-- Happens after the summary of a suite was written. -/
  afterSummary : String → Verdict → Tool μ Unit
  /-- The time, in milliseconds. -/
  clock : World μ → Nat

namespace Run

variable {μ α : Type}

/-- Lets a tool act. -/
def perform (tool : Tool μ α) : Run μ α := fun s =>
  let out := tool.run s.world
  ⟨out.value, out.events.map .remark,
    { s with world := out.state, cancelled := s.cancelled || out.events.any Remark.isCancel }⟩

/-- Notes something in the log. -/
def note (n : Notice) : Run μ Unit := Act.emit (.noted n)

/-- Notes some things in the log, in order. -/
def noteAll : List Notice → Run μ Unit
  | [] => pure ()
  | n :: rest => do
    note n
    noteAll rest

/-- Whether the run was cancelled. -/
def isCancelled : Run μ Bool := Act.see Site.cancelled

/-- The files. -/
def files : Run μ FileTree := Act.see fun s => s.world.files

/-- Changes the streams. -/
def write (f : Streams → Streams) : Run μ Unit :=
  Act.change fun s => { s with streams := f s.streams }

/-- Writes the mark of an artifact. -/
def mark (tools : Tools μ) (passed : Bool) : Run μ Unit := do
  write (·.mark passed)
  Act.emit (.marked passed)
  perform (tools.afterMark passed)

/-- Writes the end of the marks of a suite. -/
def markEnd : Run μ Unit := do
  write Streams.markEnd
  Act.emit .marksEnded

/-- Writes the summary of a suite. -/
def summarize (tools : Tools μ) (suite : String) (verdict : Verdict) : Run μ Unit := do
  write (·.summary verdict)
  Act.emit (.summarized suite verdict)
  perform (tools.afterSummary suite verdict)

/-- The time, in milliseconds. -/
def now (tools : Tools μ) : Run μ Nat := Act.see fun s => tools.clock s.world

end Run

end RoundTrip

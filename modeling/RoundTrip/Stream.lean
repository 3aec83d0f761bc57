import RoundTrip.Verdict

/-!
# Streams

A sink takes what is written to it until it is full. A write that does not fit is taken as far as
it fits and fails, and every later write fails; nobody who writes to a sink here cares
(`Sink.write` says whether a write succeeded, and its callers drop the answer).
-/

namespace RoundTrip

/-- The two streams that a program prints to. -/
inductive Channel where
  /-- Standard output. -/
  | out
  /-- Standard error. -/
  | err
  deriving DecidableEq, Inhabited

/-- A stream that takes a limited number of bytes. -/
structure Sink where
  /-- How many bytes it takes in all; no limit if there is none. -/
  limit : Option Nat := none
  /-- What it holds. -/
  held : Bytes := []
  deriving DecidableEq, Inhabited

namespace Sink

/-- How much of some bytes a sink still takes. -/
def taken (s : Sink) (bytes : Bytes) : Bytes :=
  match s.limit with
  | none => bytes
  | some limit => bytes.take (limit - s.held.length)

/-- Writes to a sink; says whether all of it was taken. -/
def write (s : Sink) (bytes : Bytes) : Bool × Sink :=
  let taken := s.taken bytes
  (taken.length == bytes.length, { s with held := s.held ++ taken })

/-- The sink behind a write whose success nobody asks for. -/
def put (s : Sink) (bytes : Bytes) : Sink := (s.write bytes).2

/-- Writes a line: the newline only if the text before it was taken. -/
def putLine (s : Sink) (line : String) : Sink :=
  let (ok, s) := s.write (Utf8.encode line)
  if ok then s.put (Utf8.encode "\n") else s

/-- What a sink holds, as a text. -/
def text (s : Sink) : String := Utf8.lossy s.held

end Sink

/-- The mark of an artifact that passes. -/
def passMark : String := "."

/-- The mark of an artifact that fails. -/
def failMark : String := "E"

/-- The mark of an artifact. -/
def markText (passed : Bool) : String := if passed then passMark else failMark

/-- The streams of a run. -/
structure Streams where
  /-- Takes a mark for each artifact. -/
  progress : Sink := {}
  /-- Takes the summaries of suites that pass. -/
  out : Sink := {}
  /-- Takes the summaries of all other suites. -/
  err : Sink := {}
  deriving DecidableEq, Inhabited

namespace Verdict

/-- The stream for the summary of a suite. -/
def channel (v : Verdict) : Channel := if v.isSuccess then .out else .err

end Verdict

namespace Streams

/-- Writes the mark of an artifact. -/
def mark (s : Streams) (passed : Bool) : Streams :=
  { s with progress := s.progress.put (Utf8.encode (markText passed)) }

/-- Writes the end of the marks of a suite. -/
def markEnd (s : Streams) : Streams :=
  { s with progress := s.progress.put (Utf8.encode "\n") }

/-- Writes the summary of a suite. -/
def summary (s : Streams) (v : Verdict) : Streams :=
  match v.channel with
  | .out => { s with out := v.lines.foldl Sink.putLine s.out }
  | .err => { s with err := v.lines.foldl Sink.putLine s.err }

end Streams

end RoundTrip

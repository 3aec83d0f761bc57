import RoundTrip.Remark

/-!
# Hosts

A host is where commands are run: it starts a program, waits for it, and kills it when its time is
over. What may come of a command is listed once (`Fate`), so that a statement about all hosts is
one about all fates. Programs run on the files of the world and may remember what they like in
its memory.
-/

namespace RoundTrip

/-- What became of a command. -/
inductive Fate where
  /-- The program could not be started. -/
  | unlaunched (reason : Reason)
  /-- The program was started, and nobody knows how it ended. -/
  | lost (reason : Reason)
  /-- The program exited with this status. -/
  | exited (status : Int32)
  /-- This signal killed the program. -/
  | killed (signal : Int32)
  /-- The time of the program was over, and killing it may have failed. -/
  | overran (killTrouble : Option Reason)
  deriving DecidableEq, Inhabited

/-- What a tool answers when it is asked for its version. -/
inductive Answer where
  /-- It could not be run. -/
  | failed
  /-- It did not answer in time. -/
  | overran
  /-- It printed this to its two streams. -/
  | printed (out err : Bytes)
  deriving DecidableEq, Inhabited

/-- Where commands are run; times are in milliseconds. -/
structure Host (μ : Type) where
  /-- Runs a command, whose output is shown or not, for a limited time or not. -/
  run : Command → Bool → Option Nat → Tool μ Fate
  /-- Asks the program at a path for its version, for a limited time. -/
  query : Path → Nat → Tool μ Answer

end RoundTrip

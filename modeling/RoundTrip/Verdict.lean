import RoundTrip.Finding

/-!
# Verdicts

The verdict about a suite follows from what was found out about its artifacts. The first rule that
applies decides: an artifact that fails fails the suite, a suite without artifacts is empty, a
walk that was cut short is cancelled, and every other suite passes.
-/

namespace RoundTrip

/-- What a suite is. -/
inductive VerdictClass where
  /-- It has artifacts, and none fails. -/
  | passed
  /-- Some artifact fails. -/
  | failed
  /-- No artifact was examined. -/
  | empty
  /-- Some artifacts were left out, and none of the others fails. -/
  | cancelled
  deriving DecidableEq, Inhabited

/-- The name of a kind of verdict. -/
def VerdictClass.name : VerdictClass → String
  | .passed => "passed"
  | .failed => "failed"
  | .empty => "empty"
  | .cancelled => "cancelled"

/-- The verdict about a suite. -/
structure Verdict where
  /-- What the suite is. -/
  kind : VerdictClass
  /-- How many artifacts were examined. -/
  total : Nat
  /-- How many of them pass. -/
  passed : Nat
  /-- How many of them fail. -/
  failed : Nat
  /-- The first line of the summary. -/
  message : String
  /-- A line for each artifact that fails, numbered from 0. -/
  failures : List String
  deriving DecidableEq, Inhabited

namespace Verdict

/-- The kind of verdict that a tally deserves. -/
def kindOf (t : Tally) : VerdictClass :=
  if t.failed ≠ [] then .failed
  else if t.total = 0 then .empty
  else if t.cancelled then .cancelled
  else .passed

/-- The first line of the summary of a tally. -/
def messageOf (t : Tally) : String :=
  match kindOf t with
  | .failed =>
    "Failed " ++ toString t.failed.length ++ " of " ++ toString t.total ++ " Tests!"
  | .empty =>
    "There is something odd with the testsuite, " ++ toString t.total ++ " Tests executed!"
  | .cancelled => "Cancelled after " ++ toString t.total ++ " Tests!"
  | .passed => "Passed all " ++ toString t.total ++ " Tests!"

/-- The lines of artifacts that fail, numbered from a given number on. -/
def numbered : Nat → List Path → List String
  | _, [] => []
  | n, path :: paths => (toString n ++ ") " ++ path.display) :: numbered (n + 1) paths

/-- The verdict about a suite. -/
def ofTally (t : Tally) : Verdict where
  kind := kindOf t
  total := t.total
  passed := t.passed.length
  failed := t.failed.length
  message := messageOf t
  failures := numbered 0 t.pathsOfFailed

/-- Whether the suite passes. -/
def isSuccess (v : Verdict) : Bool := v.kind == .passed

/-- What the suite contributes to the exit status. -/
def exitCode (v : Verdict) : Nat := if v.isSuccess then 0 else 1

/-- The lines of the summary. -/
def lines (v : Verdict) : List String := v.message :: v.failures

end Verdict

end RoundTrip

/-!
# How a run of a tool ends

A tool exits with a status, dies from a signal, is killed when its time is over, or is never
started. The four are kept apart: two runs behave alike only if they end alike, and a status that
happens to equal the code of another ending is still a status. `Ending.code` flattens an ending to
one number for those who want one.
-/

namespace RoundTrip

/-- How a run of a tool ended. -/
inductive Ending where
  /-- It exited with this status. -/
  | exited (status : Int32)
  /-- This signal killed it. -/
  | signaled (signal : Int32)
  /-- It was killed because its time was over. -/
  | timedOut
  /-- It was never started. -/
  | launchFailed
  deriving DecidableEq, Inhabited

namespace Ending

/-- The code of a run that was never started. -/
def unlaunchedCode : Int32 := -1

/-- The code of a run that was killed because its time was over. -/
def overrunCode : Int32 := -2

/-- One number for an ending: the status, the negated signal, or the code of what went wrong. -/
def code : Ending → Int32
  | .exited status => status
  | .signaled signal => -signal
  | .timedOut => overrunCode
  | .launchFailed => unlaunchedCode

/-- Whether the tool exited with status 0. -/
def isSuccess : Ending → Bool
  | .exited status => status == 0
  | _ => false

/-- What messages call an ending. -/
def text : Ending → String
  | .exited status => "exit code " ++ toString status.toInt
  | .signaled signal => "signal " ++ toString signal.toInt
  | .timedOut => "timeout"
  | .launchFailed => "launch failure"

end Ending

end RoundTrip

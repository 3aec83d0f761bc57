import RoundTrip.Host
import RoundTrip.Settings

/-!
# Launching commands

A launcher runs commands on a host. If a command cannot be started or its time is over, the run is
stopped if the command is fatal; otherwise the trouble is logged, and the ending says what
happened.
-/

namespace RoundTrip

/-- How commands are run. -/
structure Launcher where
  /-- Whether the output of every command is shown. -/
  verbose : Bool := false
  /-- After how many milliseconds a command is killed, if at all. -/
  limit : Option Nat := none
  deriving DecidableEq, Inhabited

namespace Launcher

/-- The launcher that settings ask for. -/
def ofSettings (s : Settings) : Launcher where
  verbose := s.verbose
  limit := s.timeout?.map (·.toNat * 1000)

/-- The limit in whole seconds. -/
def limitSecs (l : Launcher) : UInt64 := UInt64.ofNat (l.limit.getD 0 / 1000)

/-- What comes of a command that could not be run. -/
def unlaunched {μ : Type} (c : Command) (reason : Reason) : Tool μ (Attempt Ending) :=
  if c.fatal then pure (.error (.launchFailure c.line reason))
  else do
    Act.emit (.troubled c reason.text)
    pure (.ok .launchFailed)

/-- What comes of a command whose time was over. -/
def timedOut {μ : Type} (l : Launcher) (c : Command) : Tool μ (Attempt Ending) :=
  if c.fatal then pure (.error (.timeout c.line l.limitSecs))
  else do
    Act.emit (.troubled c ("timed out after " ++ toString l.limitSecs.toNat ++ " seconds"))
    pure (.ok .timedOut)

/-- What comes of the fate of a command. -/
def judge {μ : Type} (l : Launcher) (c : Command) : Fate → Tool μ (Attempt Ending)
  | .unlaunched reason => unlaunched c reason
  | .lost reason => unlaunched c reason
  | .exited status => pure (.ok (.exited status))
  | .killed signal => pure (.ok (.signaled signal))
  | .overran none => timedOut l c
  | .overran (some trouble) => do
    Act.emit (.killFailed trouble)
    timedOut l c

/-- Runs a command to its end. -/
def execute {μ : Type} (l : Launcher) (host : Host μ) (c : Command) :
    Tool μ (Attempt Ending) :=
  if c.program.isEmpty then pure (.error .emptyCommand)
  else do
    let visible := l.verbose || c.visible
    Act.emit (.launching c visible)
    judge l c (← host.run c visible l.limit)

/-- Runs a command to its end and gives the code of the ending. -/
def executeCode {μ : Type} (l : Launcher) (host : Host μ) (c : Command) :
    Tool μ (Attempt Int32) := do
  return (← execute l host c).map Ending.code

end Launcher

end RoundTrip

import RoundTrip.Settings
import RoundTrip.Suite

/-!
# Requests

What a user can ask for on the command line: a task, and options that hold for every task. What the
options say goes before what the settings file says, and that before the defaults.
-/

namespace RoundTrip

/-- The options that hold for every task. -/
structure Options where
  /-- Whether the output of every tool is shown. -/
  verbose : Bool := false
  /-- Whether log records are written as JSON. -/
  json : Bool := false
  /-- The settings file. -/
  config : Option Path := none
  /-- The cache root. -/
  cacheDir : Option Path := none
  /-- The directories that tools are looked for in. -/
  toolDirs : List Path := []
  /-- After how many seconds a tool is killed; 0 for never. -/
  timeoutSecs : Option UInt64 := none
  /-- Where the report is written. -/
  reportTo : Option Path := none
  deriving DecidableEq, Inhabited

namespace Options

/-- The options of two places, where those of the first go before those of the second. -/
def before (first second : Options) : Options where
  verbose := first.verbose || second.verbose
  json := first.json || second.json
  config := first.config.or second.config
  cacheDir := first.cacheDir.or second.cacheDir
  toolDirs := if first.toolDirs.isEmpty then second.toolDirs else first.toolDirs
  timeoutSecs := first.timeoutSecs.or second.timeoutSecs
  reportTo := first.reportTo.or second.reportTo

/-- Settings with what the options say in place of what the settings say. -/
def adjust (o : Options) (s : Settings) : Settings :=
  { s with
    verbose := s.verbose || o.verbose
    cacheRoot := o.cacheDir.getD s.cacheRoot
    toolDirs := if o.toolDirs.isEmpty then s.toolDirs else o.toolDirs
    timeoutSecs := o.timeoutSecs.getD s.timeoutSecs }

end Options

/-- A task. -/
inductive Task where
  /-- Runs suites of a generation, all of them if none are named. -/
  | test (generation : Generation) (names : List String)
  /-- Verifies a directory with the tools of a generation. -/
  | verify (dir : Path) (generation : Generation)
  /-- Lists the suites of a generation, or of all of them. -/
  | list (generation : Option Generation)
  deriving DecidableEq, Inhabited

/-- What a user asks for. -/
structure Request where
  /-- The options. -/
  options : Options
  /-- The task. -/
  task : Task
  deriving DecidableEq, Inhabited

end RoundTrip

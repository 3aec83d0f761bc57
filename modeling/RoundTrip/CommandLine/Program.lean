import RoundTrip.CommandLine.Arguments
import RoundTrip.CommandLine.Execution
import RoundTrip.Log.Filter

/-!
# The program

From the words of a command line to what the program leaves behind: an exit status, what it writes
to its two streams, and log records. The exit status is 0 if the program did what it was asked for
and is content, 1 if it has a problem, and 2 if the command line makes no sense.
-/

namespace RoundTrip.CommandLine

/-- The name of the program. -/
def programName : String := "irbuilder"

/-- The version of the program. -/
def programVersion : String := "0.3.1"

/-- What is said about the use of the program. -/
def usage : String :=
  "Round-trip verification of regenerated LLVM IR\n\n"
    ++ "Usage: " ++ programName ++ " [OPTIONS] test32 [SUITES]...\n"
    ++ "       " ++ programName ++ " [OPTIONS] test38 [SUITES]...\n"
    ++ "       " ++ programName ++ " [OPTIONS] verify [-g GENERATION] DIR\n"
    ++ "       " ++ programName ++ " [OPTIONS] suites [-g GENERATION]\n\n"
    ++ "Options: -v --verbose, --json, --config FILE, --cache-dir DIR, --tool-dir DIR,\n"
    ++ "         --timeout-secs SECONDS, --report-json FILE, -h --help, -V --version\n"

/-- What the program leaves behind. -/
structure Result where
  /-- The exit status. -/
  status : Nat
  /-- What it writes to standard output. -/
  out : Bytes := []
  /-- What it writes to standard error, but for log records. -/
  err : Bytes := []
  /-- The log records that it writes. -/
  log : List LogRecord := []
  deriving Inhabited

/-- What the program leaves behind if there is nothing to carry out. -/
def Stop.result : Stop → Result
  | .help => { status := 0, out := Utf8.encode usage }
  | .version => { status := 0, out := Utf8.encode (programName ++ " " ++ programVersion ++ "\n") }
  | .misuse => { status := 2, err := Utf8.encode usage }

/-- The filter for the log records: the one that is asked for if it makes sense, else one by how
much the user wants to see. -/
def filter (asked : Option Bytes) (verbose : Bool) : LogFilter :=
  ((asked.bind Utf8.decode?).bind LogFilter.ofText?).getD
    (.ofLevel (if verbose then .debug else .info))

/-- The exit status of a request. -/
def status : Except Problem Unit → Nat
  | .ok () => 0
  | .error _ => 1

/-- What the program leaves behind when a request was carried out. -/
def resultOf (r : Request) (shown : LogFilter) (done : Except Problem Unit) (events : List Event) :
    Result where
  status := status done
  out := Event.written .out events
  err := Event.written .err events ++
    match done with
    | .ok () => []
    | .error problem => Utf8.encode problem.text
  log :=
    if r.options.json then
      ((Event.spanned none events).filter fun (around, record) => shown.shows around record).map
        Prod.snd
    else []

variable {μ : Type}

/-- Runs the program: what it leaves behind, and the world behind it. -/
def run (args : List Bytes) (around : Surroundings μ) (w : World μ) : Result × World μ :=
  match readRequest args (around.var? "IRBUILDER_CACHE_DIR") with
  | .error stop => (stop.result, w)
  | .ok r =>
    let done := (r.execute around).run { world := w }
    let shown := filter (around.var? "RUST_LOG") r.options.verbose
    (resultOf r shown done.value done.events, done.state.world)

end RoundTrip.CommandLine

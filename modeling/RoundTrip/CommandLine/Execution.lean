import RoundTrip.Batch
import RoundTrip.CommandLine.Problem
import RoundTrip.CommandLine.Request
import RoundTrip.Corpus
import RoundTrip.Resolution
import RoundTrip.Storage

/-!
# Carrying out requests

A request is carried out in three steps. The settings are read and the task is turned into a plan:
which suites are run, and how their corpora are prepared; nothing is started and nothing is written
so far. The tools are looked for, and the suites are run. Last, the report is written if one is
asked for, and the user is told how many suites passed.
-/

namespace RoundTrip

/-- What the program finds around it. -/
structure Surroundings (μ : Type) where
  /-- Where commands are run. -/
  host : Host μ
  /-- The variables of the environment. -/
  var? : String → Option Bytes
  /-- The name of the run. -/
  runId : String
  /-- The point in time at which reports are made. -/
  today : Timestamp
  /-- The time, in milliseconds. -/
  clock : World μ → Nat

/-- Which suites are run. -/
structure Plan where
  /-- The generation of the tools. -/
  generation : Generation
  /-- The suites. -/
  suites : List (String × Suite)
  /-- How their corpora are prepared. -/
  recipe : Recipe := {}
  deriving DecidableEq, Inhabited

namespace Options

/-- The settings of a run: those of the settings file or the default ones, with what the options
say in their place. -/
def settings (o : Options) (files : FileTree) : Except Problem Settings := do
  let s ← match o.config with
    | none => .ok {}
    | some path => (Settings.load files path).mapError (.settingsUnusable path)
  let s := o.adjust s
  s.check.mapError .settingsInvalid
  .ok s

end Options

namespace Plan

/-- The plan for suites of a table. -/
def ofNames (g : Generation) (names : List String) (s : Settings) : Except Problem Plan :=
  match g.select names with
  | .ok suites => .ok ⟨g, suites, s.recipe⟩
  | .error f => .error (.stopped f)

/-- The plan for a directory, which is a suite of its own, whose corpus is not prepared. -/
def ofDirectory (dir : Path) (g : Generation) (files : FileTree) : Except Problem Plan :=
  let dir := files.here.join dir
  if files.isDir dir then .ok { generation := g, suites := [(dir.display, .unnamed dir)] }
  else .error (.notDirectory dir)

variable {μ : Type}

/-- The tools of a plan. -/
def tools (p : Plan) (around : Surroundings μ) (s : Settings) (assembler interpreter : Installed) :
    Tools μ where
  assemble := assembler.assemble around.host []
  interpret := interpreter.interpret around.host []
  prepare name suite dir := p.recipe.prepare (.ofSettings s) around.host name suite dir
  afterMark _ := pure ()
  afterSummary _ _ := pure ()
  clock := around.clock

/-- Looks for the assembler and for the interpreter of a plan. -/
def install (p : Plan) (around : Surroundings μ) (s : Settings) :
    Run μ (Except Problem (Installed × Installed)) := do
  let r := Resolver.ofSettings s (around.var? "PATH")
  match ← Run.perform (r.assembler around.host p.generation.versions s) with
  | .error f => pure (.error (.noAssembler f))
  | .ok assembler =>
    match ← Run.perform (r.interpreter around.host p.generation.versions s) with
    | .error f => pure (.error (.noInterpreter f))
    | .ok interpreter =>
      Run.note (.toolsResolved assembler.program interpreter.program p.generation)
      pure (.ok (assembler, interpreter))

/-- Runs the suites of a plan. -/
def run (p : Plan) (around : Surroundings μ) (s : Settings) :
    Run μ (Except Problem RunResult) := do
  match ← p.install around s with
  | .error problem => pure (.error problem)
  | .ok (assembler, interpreter) =>
    let tools := p.tools around s assembler interpreter
    return (← Run.batch tools p.generation s around.runId p.suites).mapError .stopped

end Plan

namespace RunResult

variable {μ : Type}

/-- Writes the report about a run. -/
def writeReport (r : RunResult) (around : Surroundings μ) (g : Generation) (path : Path) :
    Run μ (Except Problem Unit) := do
  let (files, done) := (r.report g.label around.today).save path (← Run.files)
  Act.change fun site => { site with world := { site.world with files } }
  match done with
  | .error f => pure (.error (.reportUnwritten path f))
  | .ok () =>
    Run.note (.reportWritten path)
    pure (.ok ())

/-- What the user is told at the end. -/
def closing (r : RunResult) : String :=
  "\n" ++ toString (countPassed r.suites) ++ " of " ++ toString r.suites.length
    ++ " suites passed (run " ++ r.runId ++ ")\n"

/-- Whether the program is content with a run. -/
def judge (r : RunResult) : Except Problem Unit :=
  if r.cancelled then .error .interrupted
  else if r.success then .ok ()
  else .error .unsuccessful

/-- Writes the report if one is asked for, and tells the user about the run. -/
def finish (r : RunResult) (around : Surroundings μ) (g : Generation) (reportTo : Option Path) :
    Run μ (Except Problem Unit) := do
  let reported ← match reportTo with
    | none => pure (.ok ())
    | some path => r.writeReport around g path
  match reported with
  | .error problem => pure (.error problem)
  | .ok () =>
    Act.emit (.said .out r.closing)
    pure r.judge

end RunResult

namespace Generation

/-- A text with blanks behind it up to a width. -/
def padded (width : Nat) (text : String) : String :=
  text ++ String.ofList (List.replicate (width - text.length) ' ')

/-- The lines about the suites of a generation. -/
def listing (g : Generation) : List String :=
  ("LLVM " ++ g.label ++ " (" ++ toString g.suites.length ++ " suites)") ::
    g.suites.map fun (name, suite) =>
      "  " ++ padded 12 name ++ " " ++ padded 14 suite.target ++ " " ++ suite.cacheDir.display

end Generation

namespace Request

variable {μ : Type}

/-- Runs suites by a plan. -/
def follow (r : Request) (around : Surroundings μ) (s : Settings) (p : Plan) :
    Run μ (Except Problem Unit) := do
  match ← p.run around s with
  | .error problem => pure (.error problem)
  | .ok result => result.finish around p.generation r.options.reportTo

/-- The plan of a task, unless it only lists suites. -/
def plan? (r : Request) (s : Settings) (files : FileTree) : Option (Except Problem Plan) :=
  match r.task with
  | .test g names => some (Plan.ofNames g names s)
  | .verify dir g => some (Plan.ofDirectory dir g files)
  | .list _ => none

/-- What a request lists. -/
def listing (r : Request) : List String :=
  match r.task with
  | .list (some g) => g.listing
  | .list none => Generation.all.flatMap Generation.listing
  | _ => []

/-- Carries out a request. -/
def execute (r : Request) (around : Surroundings μ) : Run μ (Except Problem Unit) := do
  let files ← Run.files
  match r.options.settings files with
  | .error problem => pure (.error problem)
  | .ok s =>
    match r.plan? s files with
    | some (.ok p) => r.follow around s p
    | some (.error problem) => pure (.error problem)
    | none =>
      Act.emit (.said .out (String.join (r.listing.map (· ++ "\n"))))
      pure (.ok ())

end Request

end RoundTrip

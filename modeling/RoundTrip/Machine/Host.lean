import RoundTrip.Host
import RoundTrip.Machine.Shell.Interpreter
import RoundTrip.Machine.System

/-!
# A host

The host on which the commands of a run are carried out: programs run on the files of the world,
and its memory is a clock and the variables of the environment. A command whose name or arguments
hold a zero byte, or for whose arguments there is no room, cannot be started.
-/

namespace RoundTrip.Machine

/-- What the host remembers. -/
structure Memory where
  /-- The time, in milliseconds. -/
  clock : Nat := 0
  /-- How many processes were started. -/
  started : Nat := 0
  /-- The variables of the environment. -/
  env : List (String × Bytes) := []
  deriving Inhabited

namespace Memory

/-- The value of a variable. -/
def var? (m : Memory) (name : String) : Option Bytes := m.env.lookup name

/-- The directories that programs are looked up in; those of the system if no search path is
set. -/
def searchPath (m : Memory) : List Path :=
  ((charsOf ((m.var? "PATH").getD (Utf8.encode "/bin:/usr/bin"))).splitOn ':').map pathOf

end Memory

/-- The number of a process in front of all that are started. -/
def firstPid : Nat := 1000

/-- How many steps the system does at most until a program has ended. -/
def stepLimit : Nat := 1000000000

/-- How long the processes that a program leaves behind are waited for, in microseconds. -/
def graceTime : Nat := 500

/-- Why a command cannot be started, whatever the files are. -/
def refusal? (words : List Bytes) (vars : List (Chars × Chars)) : Option Reason :=
  if words.any (·.contains 0) then some .zeroInArgument
  else if isTooLong (words.map charsOf) vars then some (.errno .argumentListTooLong)
  else none

/-- A system on which a program has been started as its only process, and the number of that. -/
def start (w : World Memory) (program : Path) (args : List Bytes) (out err : Outlet) :
    Except Reason (System × Nat) := do
  let vars := w.memory.env.map fun (name, value) => (charsOfText name, charsOf value)
  match refusal? (program.bytes :: args) vars with
  | some r => .error r
  | none =>
    let (_, l) ← lookUp w.files w.memory.searchPath program
    let call := l.call (charsOf program.bytes) (args.map charsOf) vars
    let pid := firstPid + w.memory.started + 1
    let now := w.memory.clock * 1000
    let process : Process :=
      { pid, parent := 0, task := Shell.startProgram l call, cwd := w.files.cwd, ready := now
        streams := [(0, 0), (1, 1), (2, 2)] }
    let s : System :=
      { root := w.files.root, now, processes := [process], lastPid := pid, buffers := #[[], []]
        openings := #[⟨.null, 0⟩, ⟨out, 0⟩, ⟨err, 0⟩] }
    .ok (s, pid)

/-- The world behind programs that have run. -/
def settle (w : World Memory) (s : System) : World Memory where
  files := { w.files with root := s.root }
  memory := { w.memory with clock := s.now / 1000, started := s.lastPid - firstPid }

/-- The fate of a program that has ended. -/
def fateOf : Exit → Fate
  | .status code => .exited (Int32.ofNat code)
  | .signal number => .killed (Int32.ofNat number)

/-- Runs a command. -/
def run (c : Command) (visible : Bool) (limit : Option Nat) : Tool Memory Fate := fun w =>
  let outlet (channel : Channel) : Outlet := if visible then .shown channel else .null
  match start w c.program c.args (outlet .out) (outlet .err) with
  | .error r => ⟨.unlaunched r, [], w⟩
  | .ok (s, pid) =>
    let deadline := limit.map fun time => s.now + time * 1000
    let (s, _) := s.runUntil (fun s => (s.exit? pid).isSome) deadline stepLimit
    let fate := match s.exit? pid with
      | some e => fateOf e
      | none => .overran none
    let rest := { s with processes := s.processes.filter fun p => p.pid != pid }
    let (s, _) := rest.runUntil (fun s => s.processes.isEmpty) (some (s.now + graceTime)) stepLimit
    ⟨fate, s.printed.reverse.map fun (channel, bytes) => .printed channel bytes, settle w s⟩

/-- Asks a program for its version: it has to end, and nobody may hold on to what it prints to. -/
def query (program : Path) (limit : Nat) : Tool Memory Answer := fun w =>
  match start w program [Utf8.encode "--version"] (.buffer 0) (.buffer 1) with
  | .error _ => ⟨.failed, [], w⟩
  | .ok (s, pid) =>
    let isBuffer : Outlet → Bool
      | .buffer _ => true
      | _ => false
    let ended (s : System) : Bool := (s.exit? pid).isSome && !s.holds isBuffer
    match s.runUntil ended (some (s.now + limit * 1000)) stepLimit with
    | (s, true) => ⟨.printed (s.buffers.getD 0 []) (s.buffers.getD 1 []), [], settle w s⟩
    | (s, false) => ⟨.overran, [], settle w s⟩

/-- The host. -/
def host : Host Memory := ⟨run, query⟩

end RoundTrip.Machine

import RoundTrip.Machine.Task

/-!
# The system that programs run on

Programs run as processes. Each process has its own streams, working directory and time; the system
lets that process go on that is ready first (`System.next?`), so that time passes without a clock
that ticks. A process that reads what nobody has written yet, or waits for a child, sleeps until
another process has done something. What is printed to a stream that is shown is kept in order;
what is printed for the host itself is held in a buffer.
-/

namespace RoundTrip.Machine

/-- Where a stream leads. -/
inductive Outlet where
  /-- To a stream of the host, which is shown. -/
  | shown (channel : Channel)
  /-- To a buffer of the host. -/
  | buffer (index : Nat)
  /-- Nowhere. -/
  | null
  /-- To a file. -/
  | file (place : Place) (access : Access)
  /-- To a directory, which cannot be read. -/
  | dir
  /-- From a pipe. -/
  | reader (pipe : Nat)
  /-- Into a pipe. -/
  | writer (pipe : Nat)
  /-- From a text, of which this is left. -/
  | text (rest : Bytes)
  deriving Inhabited

/-- An open stream. Streams that were copied share one, so they are at the same place. -/
structure Opening where
  /-- Where it leads. -/
  outlet : Outlet
  /-- How far a file was read or written. -/
  offset : Nat := 0
  deriving Inhabited

/-- A process. -/
structure Process where
  /-- Its number. -/
  pid : Nat
  /-- The number of its parent; the first process has none, which counts as 0. -/
  parent : Nat
  /-- What is left for it to do. -/
  task : Task
  /-- The openings of its streams. -/
  streams : List (Nat × Nat)
  /-- The working directory. -/
  cwd : Place
  /-- The permissions that new files do not get. -/
  mask : Nat := 0o022
  /-- When it can go on, in microseconds. -/
  ready : Nat
  /-- Whether it sleeps until something is done. -/
  asleep : Bool := false
  /-- Whether a signal has stopped it. -/
  stopped : Bool := false
  /-- What becomes of it when signals arrive. -/
  reactions : List (Nat × Reaction) := []
  /-- The signals that it has noted. -/
  noted : List Nat := []
  deriving Inhabited

/-- A process that has ended and that its parent does not know of yet. -/
structure Ended where
  /-- Its number. -/
  pid : Nat
  /-- The number of its parent. -/
  parent : Nat
  /-- How it ended. -/
  how : Exit
  deriving Inhabited

/-- The system. -/
structure System where
  /-- The files. -/
  root : Node
  /-- The time, in microseconds. -/
  now : Nat
  /-- The processes. -/
  processes : List Process := []
  /-- The processes that have ended. -/
  ended : List Ended := []
  /-- The open streams. -/
  openings : Array Opening := #[]
  /-- What the pipes hold. -/
  pipes : Array Bytes := #[]
  /-- What the buffers hold. -/
  buffers : Array Bytes := #[]
  /-- What was printed to streams that are shown, the last first. -/
  printed : List (Channel × Bytes) := []
  /-- The number that was given to a process last. -/
  lastPid : Nat
  deriving Inhabited

/-- What comes of asking for a service. -/
inductive Reply (α : Type) where
  /-- The answer, the system and the process behind it, and how long it took. -/
  | answer (x : α) (s : System) (p : Process) (time : Nat)
  /-- The process has to sleep. -/
  | later
  /-- A signal kills the process. -/
  | killed (signal : Nat)

/-- The signal of a write to a pipe that nobody reads. -/
def brokenPipe : Nat := 13

namespace Process

/-- The opening of a stream. -/
def opening? (p : Process) (stream : Nat) : Option Nat := p.streams.lookup stream

/-- The process with a stream closed. -/
def close (p : Process) (stream : Nat) : Process :=
  { p with streams := p.streams.filter fun s => s.1 != stream }

/-- The process with another opening of a stream. -/
def set (p : Process) (stream opening : Nat) : Process :=
  { p.close stream with streams := (stream, opening) :: (p.close stream).streams }

/-- What becomes of a process when a signal arrives. -/
def reaction (p : Process) (signal : Nat) : Reaction :=
  (p.reactions.lookup signal).getD .die

/-- The process with another reaction to a signal. -/
def react (p : Process) (signal : Nat) (reaction : Reaction) : Process :=
  { p with reactions := (signal, reaction) :: p.reactions.filter fun r => r.1 != signal }

/-- The process with a signal noted. -/
def note (p : Process) (signal : Nat) : Process :=
  if p.noted.contains signal then p else { p with noted := p.noted ++ [signal] }

/-- The process as it begins to be another program: it keeps its first streams and ignores what it
has ignored. -/
def become (p : Process) : Process :=
  { p with
    streams := p.streams.filter fun s => s.1 < 10
    reactions := p.reactions.filter fun r => r.2 == .ignore
    noted := [] }

end Process

namespace System

/-- How long a small service takes. -/
def askTime : Nat := 1

/-- How long a look at the files takes. -/
def fileTime : Nat := 3

/-- How long it takes to split in two. -/
def forkTime : Nat := 80

/-- How long it takes until the new part of a process goes on. -/
def birthTime : Nat := 150

/-- How long it takes to become another program. -/
def becomeTime : Nat := 700

/-! ## Streams -/

/-- The outlet of an opening. -/
def outlet (s : System) (opening : Nat) : Outlet :=
  (s.openings[opening]?.map Opening.outlet).getD .null

/-- Whether a process has a stream that leads to a certain place. -/
def holds (s : System) (test : Outlet → Bool) : Bool :=
  s.processes.any fun p => p.streams.any fun e => test (s.outlet e.2)

/-- The system with a new opening. -/
def opened (s : System) (outlet : Outlet) : System × Nat :=
  ({ s with openings := s.openings.push ⟨outlet, 0⟩ }, s.openings.size)

/-- The system and a process that has a stream to a new outlet. -/
def attach (s : System) (p : Process) (stream : Nat) (outlet : Outlet) : System × Process :=
  let (s, index) := s.opened outlet
  (s, p.set stream index)

/-- The portion that is taken of some bytes, behind which more may come if `more`; `none` if that is
to be waited for. -/
def portionOf (portion : Portion) (data : Bytes) (more : Bool) : Option Bytes :=
  match portion with
  | .some => if data.isEmpty && more then none else some data
  | .line =>
    let line := data.takeWhile (· != 0x0A)
    if line.length < data.length then some (data.take (line.length + 1))
    else if more then none
    else some data
  | .all => if more then none else some data

/-- The content of the file at a place. -/
def content (s : System) (place : Place) : Bytes :=
  match s.root.at? place with
  | some (.file content _) => content
  | _ => []

/-- Reads from an opening; `none` if the reader has to wait. -/
def fetch (s : System) (index : Nat) (portion : Portion) :
    Option (Except Reason Bytes × System) :=
  match s.openings[index]? with
  | none => some (.error badStream, s)
  | some o =>
    match o.outlet with
    | .null => some (.ok [], s)
    | .dir => some (.error (.errno .isDirectory), s)
    | .text rest =>
      (portionOf portion rest false).map fun taken =>
        let left : Opening := { o with outlet := .text (rest.drop taken.length) }
        (.ok taken, { s with openings := s.openings.setIfInBounds index left })
    | .file place access =>
      if access = .read ∨ access = .update then
        (portionOf portion ((s.content place).drop o.offset) false).map fun taken =>
          let left : Opening := { o with offset := o.offset + taken.length }
          (.ok taken, { s with openings := s.openings.setIfInBounds index left })
      else some (.error badStream, s)
    | .reader pipe =>
      let data := s.pipes.getD pipe []
      let more := s.holds fun
        | .writer n => n == pipe
        | _ => false
      (portionOf portion data more).map fun taken =>
        (.ok taken, { s with pipes := s.pipes.setIfInBounds pipe (data.drop taken.length) })
    | .shown _ | .buffer _ | .writer _ => some (.error badStream, s)

/-- The content of a file with some bytes written behind an offset. -/
def overwrite (content : Bytes) (offset : Nat) (bytes : Bytes) : Bytes :=
  content.take offset ++ List.replicate (offset - content.length) 0 ++ bytes
    ++ content.drop (offset + bytes.length)

/-- Writes to an opening; `none` if it leads into a pipe that nobody reads. -/
def store (s : System) (index : Nat) (bytes : Bytes) : Option (Except Reason Unit × System) :=
  match s.openings[index]? with
  | none => some (.error badStream, s)
  | some o =>
    match o.outlet with
    | .null => some (.ok (), s)
    | .shown channel => some (.ok (), { s with printed := (channel, bytes) :: s.printed })
    | .buffer n => some (.ok (), { s with buffers := s.buffers.modify n (· ++ bytes) })
    | .file place access =>
      match s.root.at? place, access with
      | _, .read => some (.error badStream, s)
      | some (.file content mode), _ =>
        let offset := if access = .append then content.length else o.offset
        let left : Opening := { o with offset := offset + bytes.length }
        some (.ok (), { s with
          root := Node.put (.file (overwrite content offset bytes) mode) place s.root
          openings := s.openings.setIfInBounds index left })
      | _, _ => some (.ok (), s)
    | .writer pipe =>
      if s.holds fun
          | .reader n => n == pipe
          | _ => false then
        some (.ok (), { s with pipes := s.pipes.modify pipe (· ++ bytes) })
      else none
    | .text _ | .dir | .reader _ => some (.error badStream, s)

/-- The stream that a path of the device directory stands for. -/
def deviceStream? (path : Path) : Option Nat :=
  match String.ofList (charsOf path.bytes) with
  | "/dev/stdin" => some 0
  | "/dev/stdout" => some 1
  | "/dev/stderr" => some 2
  | text =>
    let numbered := ["/dev/fd/", "/proc/self/fd/"].find? fun p => p.toList.isPrefixOf text.toList
    numbered.bind fun p => (String.ofList (text.toList.drop p.length)).toNat?

/-- Opens the file at a path as a stream of a process. -/
def openFile (s : System) (p : Process) (path : Path) (access : Access) (stream : Nat) :
    Except Reason (System × Process) :=
  let files : FileTree := { root := s.root, cwd := p.cwd }
  match deviceStream? path with
  | some n =>
    match p.opening? n with
    | some index => .ok (s, p.set stream index)
    | none => .error (.errno .noEntry)
  | none =>
    let mode := 0o666 - (0o666 &&& p.mask)
    let changed : Except Reason FileTree :=
      match access with
      | .read =>
        match files.node path with
        | .ok _ => .ok files
        | .error r => .error r
      | .write => files.updateAs mode path fun _ => []
      | .create =>
        if files.isFile path then .error (.errno .fileExists)
        else files.updateAs mode path id
      | .append | .update => files.updateAs mode path id
    match changed with
    | .error r => .error r
    | .ok files =>
      let outlet : Outlet := match files.landing true path with
        | .ok (.found place (.file _ _)) => .file place access
        | .ok (.found _ (.dir _)) => .dir
        | _ => .null
      .ok ({ s with root := files.root }.attach p stream outlet)

/-! ## Processes -/

/-- Wakes all processes that sleep. -/
def wake (s : System) : System :=
  { s with processes := s.processes.map fun p => if p.asleep then { p with asleep := false } else p }

/-- Puts a process in the place of the one with its number. -/
def put (s : System) (p : Process) : System :=
  { s with processes := s.processes.map fun q => if q.pid == p.pid then p else q }

/-- Ends a process. -/
def finish (s : System) (p : Process) (e : Exit) : System :=
  let others := (s.processes.filter fun q => q.pid != p.pid).map fun q =>
    if q.parent == p.pid then { q with parent := 1 } else q
  let known := p.parent == 0 || others.any fun q => q.pid == p.parent
  let ended := s.ended.filter fun e => e.parent != p.pid
  { s with
    processes := others
    ended := if known then ended ++ [Ended.mk p.pid p.parent e] else ended }.wake

/-- Whether there is a process with a number. -/
def knows (s : System) (pid : Nat) : Bool :=
  (s.processes.any fun p => p.pid == pid) || s.ended.any fun e => e.pid == pid

/-- A signal arrives at a process. -/
def deliver (s : System) (pid signal : Nat) : System :=
  match s.processes.find? fun p => p.pid == pid with
  | none => s
  | some p =>
    if signal = 0 then s
    else if signal = 9 then s.finish p (.signal 9)
    else if signal = 19 then s.put { p with stopped := true }
    else
      let p := if signal = 18 then { p with stopped := false } else p
      match p.reaction signal with
      | .ignore => (s.put p).wake
      | .note => (s.put (p.note signal)).wake
      | .die =>
        if [17, 18, 23, 28].contains signal then (s.put p).wake
        else if [20, 21, 22].contains signal then s.put { p with stopped := true }
        else s.finish p (.signal signal)

/-- The child that a wait is over for, if it is over. -/
def waited? (s : System) (p : Process) (children : List Nat) (interruptible : Bool) :
    Option (Waited × System) :=
  match s.ended.find? fun e => e.parent == p.pid && children.contains e.pid with
  | some e => some (.ended e.pid e.how, { s with ended := s.ended.filter fun f => f.pid != e.pid })
  | none =>
    if interruptible && !p.noted.isEmpty then some (.interrupted, s)
    else if s.processes.any fun q => q.parent == p.pid && children.contains q.pid then none
    else some (.nobody, s)

/-- Serves a process. Signals are sent by `step`, since they may kill the process itself. -/
def serve (s : System) (p : Process) : (v : Service) → Reply v.Answer
  | .read stream portion =>
    match p.opening? stream with
    | none => .answer (.error badStream) s p askTime
    | some index =>
      match s.fetch index portion with
      | some (x, s) => .answer x s p askTime
      | none => .later
  | .write stream bytes =>
    match p.opening? stream with
    | none => .answer (.error badStream) s p askTime
    | some index =>
      match s.store index bytes with
      | some (x, s) => .answer x s p askTime
      | none =>
        let failed : Except Reason Unit := .error (.stated "Broken pipe")
        match p.reaction brokenPipe with
        | .die => .killed brokenPipe
        | .ignore => .answer failed s p askTime
        | .note => .answer failed s (p.note brokenPipe) askTime
  | .openFile path access stream =>
    match s.openFile p path access stream with
    | .ok (s, p) => .answer (.ok ()) s p fileTime
    | .error r => .answer (.error r) s p fileTime
  | .supply bytes stream =>
    let (s, p) := s.attach p stream (.text bytes)
    .answer () s p askTime
  | .pipe reader writer =>
    let pipe := s.pipes.size
    let (s, p) := { s with pipes := s.pipes.push [] }.attach p reader (.reader pipe)
    let (s, p) := s.attach p writer (.writer pipe)
    .answer () s p askTime
  | .position stream =>
    let opening := (p.opening? stream).bind fun index => s.openings[index]?
    let found : Option (Place × Nat) := opening.bind fun o =>
      match o.outlet with
      | .file place .append => some (place, (s.content place).length)
      | .file place _ => some (place, o.offset)
      | _ => none
    .answer found s p askTime
  | .copy source target =>
    match p.opening? source with
    | some index => .answer true s (p.set target index) askTime
    | none => .answer false s p askTime
  | .close stream => .answer () s (p.close stream) askTime
  | .pause time => .answer () s p time
  | .wait children interruptible =>
    match s.waited? p children interruptible with
    | some (x, s) => .answer x s p askTime
    | none => .later
  | .reap children =>
    let own (e : Ended) : Bool := e.parent == p.pid && children.contains e.pid
    let found := (s.ended.filter own).map fun e => (e.pid, e.how)
    .answer found { s with ended := s.ended.filter fun e => !own e } p askTime
  | .kill pid _ => .answer (s.knows pid) s p askTime
  | .react signal reaction => .answer () s (p.react signal reaction) askTime
  | .noted => .answer p.noted s { p with noted := [] } askTime
  | .identity => .answer (p.pid, p.parent) s p askTime
  | .mask new => .answer p.mask s { p with mask := new.getD p.mask } askTime
  | .become => .answer () s p.become becomeTime

/-- Lets a process do the next thing that it has to do. -/
def step (s : System) (p : Process) : System :=
  let s := { s with now := max s.now p.ready }
  let goOn (s : System) (p : Process) (task : Task) (time : Nat) : System :=
    s.put { p with task, ready := s.now + time }
  match p.task with
  | .exit e => s.finish p e
  | .files act =>
    let (files, task) := act { root := s.root, cwd := p.cwd }
    goOn { s with root := files.root } { p with cwd := files.cwd } task fileTime
  | .fork child next =>
    let pid := s.lastPid + 1
    let born : Process :=
      { p with pid, parent := p.pid, task := child, ready := s.now + birthTime, noted := [] }
    goOn { s with lastPid := pid, processes := s.processes ++ [born] } p (next pid) forkTime
  | .ask (.kill pid signal) next =>
    (goOn s p (next (s.knows pid)) askTime).deliver pid signal
  | .ask service next =>
    match s.serve p service with
    | .answer x s p time => (goOn s p (next x) time).wake
    | .later => s.put { p with asleep := true }
    | .killed signal => s.finish p (.signal signal)

/-- The process that is ready first. -/
def next? (s : System) : Option Process :=
  s.processes.foldl (fun first p =>
    if p.asleep || p.stopped then first
    else
      match first with
      | none => some p
      | some q => if p.ready < q.ready then some p else some q) none

/-- Lets the processes go on until something holds; says whether it came to that before a time was
over. At most `steps` steps are done. -/
def runUntil (ended : System → Bool) (limit : Option Nat) : Nat → System → System × Bool
  | 0, s => (s, false)
  | steps + 1, s =>
    if ended s then (s, true)
    else
      let late (time : Nat) : Bool := limit.any (· ≤ time)
      match s.next? with
      | some p =>
        if late p.ready then ({ s with now := max s.now (limit.getD s.now) }, false)
        else runUntil ended limit steps (s.step p)
      | none => ({ s with now := max s.now (limit.getD s.now) }, false)

/-- How the process with a number ended, if it did. -/
def exit? (s : System) (pid : Nat) : Option Exit :=
  (s.ended.find? fun e => e.pid == pid).map Ended.how

end System

end RoundTrip.Machine

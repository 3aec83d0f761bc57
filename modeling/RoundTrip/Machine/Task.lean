import RoundTrip.Files.Content
import RoundTrip.Stream

/-!
# What programs do

A program is a `Task`: it ends, it looks at the files and changes them, it asks the system for a
service and goes on with the answer, or it splits in two. A task says nothing about when it goes
on; that is for the system (`Machine.System`). Programs are written in the monad `Proc`, in which
the rest of a program is a function of what it has found out so far.
-/

namespace RoundTrip.Machine

/-- A text of which each character stands for a byte. -/
abbrev Chars := List Char

/-- The characters of some bytes. -/
def charsOf (bytes : Bytes) : Chars := bytes.map fun b => Char.ofNat b.toNat

/-- The bytes of some characters. -/
def bytesOf (chars : Chars) : Bytes := chars.map fun c => UInt8.ofNat c.toNat

/-- The path of some characters. -/
def pathOf (chars : Chars) : Path := ⟨bytesOf chars⟩

/-- The characters of the bytes of a text. -/
def charsOfText (text : String) : Chars := charsOf (Utf8.encode text)

/-- The reason that a stream is not open, or not in this way. -/
def badStream : Reason := .stated "Bad file descriptor"

/-- How a program ends. -/
inductive Exit where
  /-- With a status. -/
  | status (code : Nat)
  /-- By a signal. -/
  | signal (number : Nat)
  deriving DecidableEq, Inhabited

/-- The status that a shell sees of a program that has ended. -/
def Exit.seen : Exit → Nat
  | .status code => code
  | .signal number => 128 + number

/-- How a file is opened. -/
inductive Access where
  /-- To be read. -/
  | read
  /-- To be written anew. -/
  | write
  /-- To be written anew, unless there is a file. -/
  | create
  /-- To be written behind its end. -/
  | append
  /-- To be read and written. -/
  | update
  deriving DecidableEq, Inhabited

/-- How much is read of a stream. -/
inductive Portion where
  /-- What is there, if anything is. -/
  | some
  /-- The next line, with its end if it has one. -/
  | line
  /-- All up to the end of the stream. -/
  | all
  deriving DecidableEq, Inhabited

/-- What becomes of a program when a signal arrives. -/
inductive Reaction where
  /-- It is killed. -/
  | die
  /-- Nothing. -/
  | ignore
  /-- It notes the signal. -/
  | note
  deriving DecidableEq, Inhabited

/-- How a wait is over. -/
inductive Waited where
  /-- A child has ended. -/
  | ended (pid : Nat) (e : Exit)
  /-- There is no such child. -/
  | nobody
  /-- A signal arrived that the program notes. -/
  | interrupted
  deriving DecidableEq, Inhabited

/-- What a program asks the system for. Streams have numbers. -/
inductive Service where
  /-- A portion of what can be read of a stream, or nothing at its end. -/
  | read (stream : Nat) (portion : Portion)
  /-- Bytes are written to a stream. -/
  | write (stream : Nat) (bytes : Bytes)
  /-- A file is opened as a stream. -/
  | openFile (path : Path) (access : Access) (stream : Nat)
  /-- A stream from which some bytes can be read. -/
  | supply (bytes : Bytes) (stream : Nat)
  /-- Two streams, of which one reads what is written to the other. -/
  | pipe (reader writer : Nat)
  /-- The file that a stream leads to, and how far it is written. -/
  | position (stream : Nat)
  /-- A stream becomes the same as another, if that is open. -/
  | copy (source target : Nat)
  /-- A stream is closed. -/
  | close (stream : Nat)
  /-- Time passes. -/
  | pause (microseconds : Nat)
  /-- One of some children ends; a signal that is noted ends the wait if `interruptible`. -/
  | wait (children : List Nat) (interruptible : Bool)
  /-- Those of some children that have ended. -/
  | reap (children : List Nat)
  /-- A signal is sent to a process, if there is one with the number. -/
  | kill (pid signal : Nat)
  /-- What becomes of the program when a signal arrives. -/
  | react (signal : Nat) (reaction : Reaction)
  /-- The signals that were noted since this was asked for last. -/
  | noted
  /-- The number of the process, and that of its parent. -/
  | identity
  /-- The permissions that new files do not get, which are changed if others are given. -/
  | mask (new : Option Nat)
  /-- The process becomes another program. -/
  | become

/-- The type of the answers of a service. -/
def Service.Answer : Service → Type
  | .read _ _ => Except Reason Bytes
  | .write _ _ | .openFile _ _ _ => Except Reason Unit
  | .position _ => Option (Place × Nat)
  | .copy _ _ | .kill _ _ => Bool
  | .wait _ _ => Waited
  | .reap _ => List (Nat × Exit)
  | .noted => List Nat
  | .identity => Nat × Nat
  | .mask _ => Nat
  | _ => Unit

/-- A program that is running. -/
inductive Task where
  /-- It ends. -/
  | exit (e : Exit)
  /-- It looks at the files and changes them. -/
  | files (act : FileTree → FileTree × Task)
  /-- It asks for a service. -/
  | ask (service : Service) (next : service.Answer → Task)
  /-- It splits in two, and goes on with the number of the other part. -/
  | fork (child : Task) (next : Nat → Task)

instance : Inhabited Task := ⟨.exit (.status 0)⟩

/-- A part of a program that finds out a value. -/
def Proc (α : Type) : Type := (α → Task) → Task

namespace Proc

variable {α : Type}

instance : Monad Proc where
  pure x := fun k => k x
  bind p f := fun k => p fun x => f x k

/-- Asks for a service. -/
def ask (s : Service) : Proc s.Answer := fun k => .ask s k

/-- Changes the files. -/
def change (f : FileTree → FileTree × α) : Proc α := fun k =>
  .files fun t =>
    let (t, x) := f t
    (t, k x)

/-- Looks at the files. -/
def see (f : FileTree → α) : Proc α := change fun t => (t, f t)

/-- Changes the files, if that is possible. -/
def attempt (f : FileTree → Except Reason FileTree) : Proc (Except Reason Unit) :=
  change fun t =>
    match f t with
    | .ok t => (t, .ok ())
    | .error r => (t, .error r)

/-- Ends the program. -/
def exit (e : Exit) : Proc α := fun _ => .exit e

/-- Writes characters to a stream. -/
def write (stream : Nat) (text : Chars) : Proc (Except Reason Unit) :=
  if text.isEmpty then pure (.ok ()) else ask (.write stream (bytesOf text))

/-- Writes characters to standard output. -/
def say (text : Chars) : Proc Unit := do
  let _ ← write 1 text

/-- Writes characters to standard error. -/
def complain (text : Chars) : Proc Unit := do
  let _ ← write 2 text

end Proc

/-- A call of a program. -/
structure Call where
  /-- The name that it was called by. -/
  name : Chars
  /-- Its arguments. -/
  args : List Chars
  /-- The variables that are handed on to it. -/
  vars : List (Chars × Chars) := []
  deriving Inhabited

/-- A program: from a call to the status that it ends with. -/
abbrev Program := Call → Proc Nat

end RoundTrip.Machine

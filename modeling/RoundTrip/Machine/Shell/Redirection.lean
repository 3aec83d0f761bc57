import RoundTrip.Machine.Shell.Expansion

/-!
# Redirection of streams

A command may have its streams lead elsewhere. The words of all redirections are expanded first;
then the streams are changed one after the other, and those that were changed are remembered, so
that they can be put back when the command is over.
-/

namespace RoundTrip.Shell

open Machine

/-- Where a stream is to lead, as far as it is known before any stream is changed. -/
inductive Aim where
  /-- To a file. -/
  | file (access : Access) (path : Chars)
  /-- To the place that another stream leads to, or nowhere. -/
  | same (stream : Option Nat)
  /-- From a text that is expanded when it is needed. -/
  | text (w : Word)

/-- The first number of the streams that hold what is put back. -/
def firstSaved : Nat := 100

/-- What is said of a reason that a file is not opened for. -/
def openPhrase (access : Access) : Reason → Chars
  | .errno .noEntry | .errno .notDirectory =>
    if access = .read then "No such file".toList else "Directory nonexistent".toList
  | r => reasonPhrase r

namespace Sh

/-- Where streams are to lead. -/
def aims (run : Runner) : List (Redirect Cmd) → Sh (List (Nat × Aim))
  | [] => return []
  | ⟨stream, target⟩ :: rest => do
    let aim : Aim ← match target with
      | .file access w => do pure (.file access (← expandText run { tilde := true } w))
      | .same source => pure (.same source)
      | .sameAs w => do
        match ← expandText run { tilde := true } w with
        | ['-'] => pure (.same none)
        | [c] => if c.isDigit then pure (.same (some (c.toNat - '0'.toNat))) else refuseNumber
        | _ => refuseNumber
      | .text id => do pure (.text ((← get).texts[id]?.getD []))
    return (stream, aim) :: (← aims run rest)
where
  /-- Complains of the number of a stream. -/
  refuseNumber : Sh Aim := do
    modify fun s => { s with line := s.scriptLine }
    failWith "Syntax error: Bad fd number"

/-- Remembers where a stream leads, unless that has been done for the innermost command. -/
def remember (stream : Nat) : Sh Unit := do
  let s ← get
  match s.redirected with
  | own :: outer =>
    if !own.any fun r => r.1 == stream then
      let copy := firstSaved + (s.redirected.map List.length).foldl (· + ·) 0
      let isOpen : Bool ← ask (.copy stream copy)
      let own := (stream, if isOpen then some copy else none) :: own
      modify fun s => { s with redirected := own :: outer }
  | [] => return

/-- Opens a file as a stream. -/
def openAs (path : Chars) (access : Access) (stream : Nat) : Sh Unit := do
  let isNew := access == .create && !(← get).has 'C'
  let opened : Except Reason Unit ←
    ask (.openFile (pathOf path) (if isNew then .write else access) stream)
  match opened with
  | .ok () => return
  | .error r =>
    let verb := if access = .read then "cannot open ".toList else "cannot create ".toList
    fail (verb ++ path ++ [':', ' '] ++ openPhrase access r)

/-- Makes a stream lead where it is to lead. -/
def redirect (run : Runner) (stream : Nat) (aim : Aim) : Sh Unit := do
  match aim with
  | .file access path =>
    -- A stream is left as it is if the file cannot be opened.
    remember stream
    openAs path access stream
  | .same none =>
    remember stream
    ask (.close stream)
  | .same (some source) =>
    if source ≠ stream then
      remember stream
      let isOpen : Bool ← ask (.copy source stream)
      if !isOpen then
        fail ((toString source).toList ++ ": Bad file descriptor".toList)
  | .text w =>
    let text ← expandText run { quoted := true } w
    remember stream
    ask (.supply (bytesOf text) stream)

/-- Begins redirections that are put back later. -/
def enterRedirects : Sh Unit := modify fun s => { s with redirected := [] :: s.redirected }

/-- Ends the redirections that were begun last; the streams are left as they are if `stay`. -/
def leaveRedirects (stay : Bool) : Sh Unit := do
  match (← get).redirected with
  | [] => return
  | own :: outer =>
    modify fun s => { s with redirected := outer }
    for (stream, copy?) in own do
      match copy? with
      | some copy =>
        if !stay then
          let _ : Bool ← ask (.copy copy stream)
        ask (.close copy)
      | none => if !stay then ask (.close stream)

/-- Ends redirections until so many are left. -/
def unwindRedirects (count : Nat) : Sh Unit := do
  for _ in List.range ((← get).redirected.length - count) do leaveRedirects false

/-- Does redirections; gives the status 2 if one of them fails. -/
def redirectSafely (run : Runner) (aims : List (Nat × Aim)) : Sh Nat := do
  let stop ← attempt do
    for (stream, aim) in aims do redirect run stream aim
  match stop with
  | none => return 0
  | some .fault => return 2
  | some other => throw other

end Sh

end RoundTrip.Shell

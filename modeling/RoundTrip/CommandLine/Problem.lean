import RoundTrip.Failure

/-!
# Problems

Why the program could not do what it was asked for, or why it is not content. A problem is told on
standard error: first what could not be done, and then what lies behind it.
-/

namespace RoundTrip

/-- Why the program is not content. -/
inductive Problem where
  /-- The settings file cannot be used. -/
  | settingsUnusable (path : Path) (failure : Failure)
  /-- The settings that the file and the options make cannot work. -/
  | settingsInvalid (failure : Failure)
  /-- The directory to be verified is none. -/
  | notDirectory (dir : Path)
  /-- There is no assembler. -/
  | noAssembler (failure : Failure)
  /-- There is no interpreter. -/
  | noInterpreter (failure : Failure)
  /-- Something stopped the run, or the request before it. -/
  | stopped (failure : Failure)
  /-- The report cannot be written. -/
  | reportUnwritten (path : Path) (failure : Failure)
  /-- The run was cancelled. -/
  | interrupted
  /-- Not every suite passes. -/
  | unsuccessful
  deriving DecidableEq, Inhabited

namespace Problem

/-- What is said about a failure, and then what lies behind it. -/
def told (f : Failure) : List String := f.message :: f.cause?.toList

/-- What is said about a problem: what could not be done, and what lies behind it, from the nearest
cause to the farthest. -/
def chain : Problem → String × List String
  | .settingsUnusable path f => ("Failed to load config " ++ path.display, told f)
  | .settingsInvalid f => ("Invalid configuration", told f)
  | .notDirectory dir => ("Not a directory: " ++ dir.display, [])
  | .noAssembler f => ("Cannot find an assembler", told f)
  | .noInterpreter f => ("Cannot find an interpreter", told f)
  | .stopped f => (f.message, f.cause?.toList)
  | .reportUnwritten path f => ("Failed to write report " ++ path.display, told f)
  | .interrupted => ("Round-trip verification interrupted", [])
  | .unsuccessful => ("Round-trip verification failed", [])

/-- A text with a label in front of its first line, and the other lines below the first. -/
def indented (label : List Char) (text : String) : List Char :=
  let margin := '\n' :: List.replicate label.length ' '
  label ++ text.toList.flatMap fun c => if c = '\n' then margin else [c]

/-- The causes, each on a line of its own, numbered if there are several. -/
def causeLines (causes : List String) : List (List Char) :=
  match causes with
  | [cause] => [indented (List.replicate 4 ' ') cause]
  | causes => causes.mapIdx fun i cause =>
    let number := Nat.toDigits 10 i
    indented (List.replicate (5 - number.length) ' ' ++ number ++ [':', ' ']) cause

/-- What is written about a problem. -/
def text (p : Problem) : String :=
  let (head, causes) := p.chain
  "Error: " ++ head
    ++ (if causes.isEmpty then "" else
      "\n\nCaused by:" ++ String.ofList ((causeLines causes).flatMap ('\n' :: ·)))
    ++ "\n"

end Problem

end RoundTrip

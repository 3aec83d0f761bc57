import RoundTrip.Machine.Programs.Files
import RoundTrip.Machine.Programs.Grep
import RoundTrip.Machine.Programs.Test
import RoundTrip.Machine.Programs.Text

/-!
# The programs of a machine

All programs but the shell, by their names. A program is a file whose content names it
(`programContent`), so that a copy of a program is the same program.
-/

namespace RoundTrip.Machine

/-- The programs, by their names. -/
def programs : List (String × Program) := [
  ("true", fun _ => pure 0), ("false", fun _ => pure 1), ("echo", echo), ("printf", printf),
  ("test", fun c => testProgram c c.args), ("[", bracketProgram), ("pwd", pwd), ("cat", cat),
  ("cp", cp), ("mv", mv), ("rm", rm), ("mkdir", mkdir), ("rmdir", rmdir), ("touch", touch),
  ("chmod", chmod), ("ln", ln), ("ls", ls), ("head", printPart true),
  ("tail", printPart false), ("wc", wc), ("basename", basename), ("dirname", dirname),
  ("sleep", sleep), ("grep", grep), ("gcc", gcc)]

/-- The name of the shell. -/
def shellName : String := "sh"

/-- The first bytes of the file of a program. -/
def programMark : Bytes := [0x7F, 0x45, 0x4C, 0x46]

/-- The content of the file of a program. -/
def programContent (name : String) : Bytes := programMark ++ Utf8.encode name

/-- The name of the program that a content is one of. -/
def programName? (content : Bytes) : Option String :=
  if programMark.isPrefixOf content then
    (Utf8.decode? (content.drop programMark.length)).filter fun name =>
      name == shellName || (programs.lookup name).isSome
  else none

/-- The directories and files of a system with all programs. -/
def rootTree : Node :=
  let program (name : String) : Name × Node :=
    (Utf8.encode name, .file (programContent name) 0o755)
  let bin : Node := .dir ((shellName :: programs.map Prod.fst).map program)
  let name (text : String) : Name := Utf8.encode text
  .dir [(name "bin", bin), (name "usr", .dir [(name "bin", bin)]),
    (name "dev", .dir [(name "null", .null)]), (name "root", .dir []), (name "tmp", .dir [])]

end RoundTrip.Machine

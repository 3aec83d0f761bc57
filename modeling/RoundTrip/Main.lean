import RoundTrip.CommandLine.Program
import RoundTrip.Machine.Image
import RoundTrip.Timestamp.Reader

/-!
# The executable

The program runs on a machine of its own, whose image is a line of standard input: an object with
the entries of the files in `files`, the variables of the environment in `env`, the name of the run
in `run` and the point in time at which reports are made in `today`, all of which may be left out.
-/

namespace RoundTrip.Machine

/-- The variables of the environment in an image. -/
def envOf (image : Json) : List (String × Bytes) :=
  ((image.get? "env").getD .null).members.filterMap fun (name, value) =>
    (bytes? value).map (name, ·)

/-- What a machine offers to the program. -/
def surroundings (image : Json) (env : List (String × Bytes)) : Surroundings Memory where
  host := host
  var? name := env.lookup name
  runId := ((image.get? "run").bind Json.text?).getD "run"
  today := (((image.get? "today").bind Json.text?).bind Timestamp.ofText?).getD
    ⟨1970, 1, 1, 0, 0, 0, 0⟩
  clock w := w.memory.clock

/-- Runs the program on the machine of an image. -/
def runImage (image : Json) (args : List String) : CommandLine.Result :=
  let env := envOf image
  let entries := (((image.get? "files").getD .null).listOf? Entry.ofJson?).getD []
  let files := filesOf [Utf8.encode "work"] entries
  (CommandLine.run (args.map Utf8.encode) (surroundings image env) ⟨files, { env }⟩).1

/-- Runs the program on the machine whose image is read from standard input. -/
def serve (args : List String) : IO UInt32 := do
  let image := (Json.ofText? (← (← IO.getStdin).getLine)).getD .null
  let result := runImage image args
  let write (stream : IO.FS.Stream) (bytes : Bytes) : IO Unit := stream.write ⟨bytes.toArray⟩
  write (← IO.getStdout) result.out
  let err ← IO.getStderr
  for record in result.log do
    err.putStrLn record.toJson.compact
  write err result.err
  return UInt32.ofNat result.status

end RoundTrip.Machine

/-- The program, on a machine of its own. -/
def main (args : List String) : IO UInt32 := RoundTrip.Machine.serve args

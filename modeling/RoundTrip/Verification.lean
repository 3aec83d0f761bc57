import RoundTrip.Discovery
import RoundTrip.Run

/-!
# Verifying a directory

An artifact is examined by assembling its text, running the reference binary and the assembled
one, and comparing how they end (`Run.examine`). Nothing is run after the assembler has rejected
the text, and nothing where the reference binary is missing. The artifacts of a directory are
examined one at a time in the order of their discovery (`Run.verify`); the run looks whether it was
cancelled before each of them. What an artifact fails of is recorded, and only an assembler that
cannot be run stops the walk.
-/

namespace RoundTrip.Run

variable {μ : Type}

/-- Runs both binaries of an artifact and compares how they end. -/
def compare (tools : Tools μ) (a : Artifact) : Run μ Finding := do
  Act.emit (.interpreting a.reference)
  let reference ← perform (tools.interpret a.reference)
  Act.emit (.interpreting a.binary)
  let regenerated ← perform (tools.interpret a.binary)
  note (.interpreted a.text reference regenerated)
  pure (.ofEndings reference regenerated)

/-- Finds out about an artifact whose text was assembled with a status. -/
def examineAssembled (tools : Tools μ) (a : Artifact) (code : Int32) : Run μ Finding := do
  if code ≠ 0 then
    pure (.failed (.rejected code))
  else if (← files).isFile a.reference then
    compare tools a
  else
    note (.referenceMissing a.reference)
    pure (.failed .referenceMissing)

/-- Finds out about an artifact. -/
def examine (tools : Tools μ) (a : Artifact) : Run μ (Attempt Finding) := do
  Act.emit (.assembling a.text)
  match ← perform (tools.assemble a.text) with
  | .error f => pure (.error f)
  | .ok code => return .ok (← examineAssembled tools a code)

/-- Records what was found out about an artifact. -/
def settle (tools : Tools μ) (a : Artifact) (finding : Finding) : Run μ Unit := do
  note (.verified a.text finding)
  mark tools finding.isPassed

/-- Examines artifacts in order, of `found` that were discovered in all, until the run is
cancelled. -/
def examineAll (tools : Tools μ) (found : Nat) :
    List Artifact → Tally → Run μ (Attempt Tally)
  | [], tally => pure (.ok tally)
  | a :: rest, tally => do
    if ← isCancelled then
      note (.interrupted (found - tally.total))
      pure (.ok { tally with cancelled := true })
    else
      match ← examine tools a with
      | .error f => pure (.error f)
      | .ok finding =>
        settle tools a finding
        examineAll tools found rest (tally.add a.text finding)

/-- The artifacts below a path, with a note if it leads to no directory and one for each directory
that cannot be listed. -/
def discover (root : Path) : Run μ (List Artifact) := do
  match (← files).folders? root with
  | some folders =>
    noteAll (folders.filterMap fun f => (f.refusal? root).map (.unlisted (f.path root)))
    pure (folders.flatMap (·.artifacts root))
  | none =>
    note (.rootMissing root)
    pure []

/-- Verifies the artifacts below a path. -/
def verify (tools : Tools μ) (root : Path) : Run μ (Attempt Tally) := do
  note (.verifying root)
  let artifacts ← discover root
  note (.discovered artifacts.length)
  match ← examineAll tools artifacts.length artifacts {} with
  | .error f => pure (.error f)
  | .ok tally =>
    markEnd
    pure (.ok tally)

end RoundTrip.Run

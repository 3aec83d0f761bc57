import RoundTrip.Artifact
import RoundTrip.Ending

/-!
# Findings

What is found out about one artifact (`Finding`), and about a directory of them (`Tally`): the
regenerated texts of the artifacts that pass and those of the artifacts that fail, each with its
fault, in the order in which they were examined.
-/

namespace RoundTrip

/-- Why an artifact fails. -/
inductive Fault where
  /-- The assembler rejected the regenerated text with this status. -/
  | rejected (code : Int32)
  /-- There is no reference binary. -/
  | referenceMissing
  /-- The two binaries ended differently. -/
  | endingsDiffer (reference regenerated : Ending)
  deriving DecidableEq, Inhabited

/-- What messages call a fault. -/
def Fault.text : Fault → String
  | .rejected code => "assembly failed with exit code " ++ toString code.toInt
  | .referenceMissing => "reference bitcode missing"
  | .endingsDiffer reference regenerated =>
    "regenerated " ++ regenerated.text ++ ", reference " ++ reference.text

/-- What is found out about an artifact. -/
inductive Finding where
  /-- Both binaries ended in this way. -/
  | passed (ending : Ending)
  /-- The artifact has a fault. -/
  | failed (fault : Fault)
  deriving DecidableEq, Inhabited

/-- Whether an artifact passes. -/
def Finding.isPassed : Finding → Bool
  | .passed _ => true
  | .failed _ => false

/-- The finding about two binaries that ran. -/
def Finding.ofEndings (reference regenerated : Ending) : Finding :=
  if reference = regenerated then .passed reference
  else .failed (.endingsDiffer reference regenerated)

/-- An artifact that fails. -/
structure Failed where
  /-- Its regenerated text. -/
  path : Path
  /-- Why it fails. -/
  fault : Fault
  deriving DecidableEq, Inhabited

/-- What was found out about the artifacts of a directory. -/
structure Tally where
  /-- The regenerated texts of the artifacts that pass. -/
  passed : List Path := []
  /-- The artifacts that fail. -/
  failed : List Failed := []
  /-- Whether some artifacts were left out because the run was cancelled. -/
  cancelled : Bool := false
  deriving DecidableEq, Inhabited

namespace Tally

/-- How many artifacts were examined. -/
def total (t : Tally) : Nat := t.passed.length + t.failed.length

/-- The regenerated texts of the artifacts that fail. -/
def pathsOfFailed (t : Tally) : List Path := t.failed.map Failed.path

/-- Adds the finding about one more artifact. -/
def add (t : Tally) (path : Path) : Finding → Tally
  | .passed _ => { t with passed := t.passed ++ [path] }
  | .failed fault => { t with failed := t.failed ++ [⟨path, fault⟩] }

/-- One more finding is one more artifact. -/
@[simp] theorem total_add (t : Tally) (path : Path) (f : Finding) :
    (t.add path f).total = t.total + 1 := by
  cases f <;> simp [add, total] <;> omega

/-- A finding does not cancel anything. -/
@[simp] theorem cancelled_add (t : Tally) (path : Path) (f : Finding) :
    (t.add path f).cancelled = t.cancelled := by
  cases f <;> rfl

end Tally

end RoundTrip

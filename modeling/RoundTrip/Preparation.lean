import RoundTrip.Stage

/-!
# How the preparation of a corpus ends
-/

namespace RoundTrip

/-- How the preparation of a corpus ended. -/
inductive Preparation where
  /-- No stage has a command. -/
  | skipped
  /-- Every stage that has a command succeeded. -/
  | prepared
  /-- A stage failed with this code, and no later stage was run. -/
  | failed (stage : Stage) (code : Int32)
  deriving DecidableEq, Inhabited

/-- Whether a stage failed. -/
def Preparation.isFailed : Preparation → Bool
  | .failed _ _ => true
  | _ => false

end RoundTrip

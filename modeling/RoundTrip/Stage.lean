/-!
# The stages of preparing a corpus
-/

namespace RoundTrip

/-- A stage of preparing the corpus of a suite. -/
inductive Stage where
  /-- Compiling the reference binaries. -/
  | compile
  /-- Regenerating the texts from the binaries. -/
  | regenerate
  deriving DecidableEq, Inhabited

namespace Stage

/-- The name of a stage. -/
def name : Stage → String
  | .compile => "compile"
  | .regenerate => "regenerate"

/-- The stages, in the order in which they are run. -/
def all : List Stage := [.compile, .regenerate]

end Stage

end RoundTrip

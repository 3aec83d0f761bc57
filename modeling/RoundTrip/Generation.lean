import RoundTrip.VersionList

/-!
# Generations of the toolchain

Two generations of LLVM tools are known. Each has the versions that it accepts and, in
`RoundTrip.Suite`, suites of its own.
-/

namespace RoundTrip

/-- A generation of the toolchain. -/
inductive Generation where
  /-- LLVM 3.2 and 3.3. -/
  | llvm32
  /-- LLVM 3.8 and 3.9. -/
  | llvm38
  deriving DecidableEq, Inhabited

namespace Generation

/-- The generations, the older first. -/
def all : List Generation := [.llvm32, .llvm38]

/-- What messages and reports call a generation. -/
def label : Generation → String
  | .llvm32 => "3.2"
  | .llvm38 => "3.8"

/-- The name of a generation in settings. -/
def name : Generation → String
  | .llvm32 => "llvm32"
  | .llvm38 => "llvm38"

/-- The versions of a tool that a generation accepts. -/
def versions : Generation → VersionList
  | .llvm32 => ⟨["3.2", "3.3"]⟩
  | .llvm38 => ⟨["3.8", "3.9"]⟩

/-- The generation that a user means. -/
def ofText (text : String) : Attempt Generation :=
  let word := trimBlanks text
  if word ∈ ["32", "3.2", "llvm32"] then .ok .llvm32
  else if word ∈ ["38", "3.8", "llvm38"] then .ok .llvm38
  else .error (.invalidSettings (.unknownGeneration word))

end Generation

end RoundTrip

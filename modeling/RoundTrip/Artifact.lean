import RoundTrip.Path

/-!
# Artifacts

A test case of a suite is known by its regenerated text `stem.out.ll`. Beside it lie the reference
binary `stem.bc`, which the corpus compiler wrote, and the binary `stem.out.bc`, which the
assembler writes for the text. `Artifact.ofPath?` derives the three paths from that of the text.
-/

namespace RoundTrip

/-- The three paths of a test case. -/
structure Artifact where
  /-- The binary that the text was regenerated from. -/
  reference : Path
  /-- The regenerated text. -/
  text : Path
  /-- The binary that is assembled from the text. -/
  binary : Path
  deriving DecidableEq, Inhabited

namespace Artifact

/-- The end of the name of a regenerated text. -/
def textSuffix : String := ".out.ll"

/-- The end of the name of a binary assembled from such a text. -/
def binarySuffix : String := ".out.bc"

/-- The end of the name of a reference binary. -/
def referenceSuffix : String := ".bc"

/-- The stem of a file name: what stands before `.out.ll`, if that is not empty. Names that are no
text have no stem. -/
def stem? (name : Bytes) : Option String := do
  let text ← Utf8.decode? name
  let length := text.toList.length - textSuffix.toList.length
  let stem := text.toList.take length
  if stem ≠ [] ∧ text.toList.drop length = textSuffix.toList then some (String.ofList stem)
  else none

/-- The artifact whose regenerated text lies at a path, if the last component of the path is the
name of one. -/
def ofPath? (p : Path) : Option Artifact := do
  let stem ← stem? (← p.fileName?)
  some {
    reference := p.withFileName (Utf8.encode (stem ++ referenceSuffix))
    text := p
    binary := p.withFileName (Utf8.encode (stem ++ binarySuffix)) }

end Artifact

end RoundTrip

import RoundTrip.Generation

/-!
# Suites

A suite is a directory of artifacts together with what is needed to prepare it. Each generation
has a table of suites, in the order of their names. `select` answers a request: all suites for an
empty one, else the named ones in the order of the request, repetitions kept, and nothing at all
if one of the names is unknown.
-/

namespace RoundTrip

/-- Where the artifacts of a suite come from and where they lie. -/
structure Suite where
  /-- What the corpus compiler is asked for. -/
  target : String
  /-- The generator that writes the regenerated texts. -/
  generator : String
  /-- The directory of the suite, relative to the cache root. -/
  cacheDir : Path
  deriving DecidableEq, Inhabited

namespace Suite

/-- A directory that is no suite of any table. -/
def unnamed (cacheDir : Path) : Suite := ⟨"", "", cacheDir⟩

/-- A row of a table: the name of a suite, its target, its generator without the common part of the
names of generators, and its directory. -/
def row (name target generator cacheDir : String) : String × Suite :=
  (name, ⟨target, "at.pointhi.irbuilder.test." ++ generator ++ "GeneratorSuite",
    .ofText cacheDir⟩)

end Suite

namespace Generation

/-- The suites of a generation, in the order of their names. -/
def suites : Generation → List (String × Suite)
  | .llvm32 => [
      Suite.row "assembly" "assembly" "InlineAssembly" "inlineassemblytests",
      Suite.row "gcc" "gcc" "GCC" "gcc",
      Suite.row "llvm" "llvm" "LLVM" "llvm",
      Suite.row "nwcc" "nwcc" "NWCC" "nwcc",
      Suite.row "sulong" "sulong" "Sulong" "sulong"]
  | .llvm38 => [
      Suite.row "gcc" "gcc38" "GCC" "gcc",
      Suite.row "llvm" "llvm38" "LLVM" "llvm",
      Suite.row "nwcc" "nwcc38" "NWCC" "nwcc",
      Suite.row "sulong" "sulong38" "Sulong" "sulong",
      Suite.row "sulongcpp" "sulongcpp38" "SulongCPP" "sulongcpp"]

/-- The names of the suites of a generation. -/
def suiteNames (g : Generation) : List String := g.suites.map Prod.fst

/-- The suite of a name. -/
def suite? (g : Generation) (name : String) : Option Suite := g.suites.lookup name

/-- The suites that a request names, or all suites if it names none. -/
def select (g : Generation) (names : List String) : Attempt (List (String × Suite)) :=
  if names.isEmpty then .ok g.suites
  else names.mapM fun name =>
    match g.suite? name with
    | some suite => .ok (name, suite)
    | none => .error (.unknownSuite name g.label g.suiteNames)

end Generation

end RoundTrip

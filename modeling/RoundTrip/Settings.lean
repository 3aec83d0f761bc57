import RoundTrip.Failure

/-!
# Settings of a run

Settings are checked by `Settings.check` before a run; two things can be wrong with them, and
an empty command wins over an empty cache root.
-/

namespace RoundTrip

/-- The commands that prepare the corpus of a suite, as templates of which each is a list of
words. -/
structure Recipe where
  /-- Compiles the reference binaries. -/
  compile : Option (List String) := none
  /-- Regenerates the texts. -/
  regenerate : Option (List String) := none
  deriving DecidableEq, Inhabited

namespace Recipe

/-- The command of a stage. -/
def command? (r : Recipe) : Stage → Option (List String)
  | .compile => r.compile
  | .regenerate => r.regenerate

/-- Whether no stage has a command. -/
def isEmpty (r : Recipe) : Bool := r.compile.isNone && r.regenerate.isNone

end Recipe

/-- The settings of a run. -/
structure Settings where
  /-- Whether the output of every tool is shown. -/
  verbose : Bool := false
  /-- After how many seconds a tool is killed; 0 for never. -/
  timeoutSecs : UInt64 := 0
  /-- The directory that the directories of suites lie in. -/
  cacheRoot : Path := .ofText "tests/cache"
  /-- The directories that tools are looked for in; none for those of the search path. -/
  toolDirs : List Path := []
  /-- The arguments in front of the input of each call of the assembler. -/
  assemblerFlags : List String := []
  /-- The arguments in front of the input of each call of the interpreter. -/
  interpreterFlags : List String := []
  /-- The commands that prepare a corpus. -/
  recipe : Recipe := {}
  deriving DecidableEq, Inhabited

namespace Settings

/-- Checks that no command is empty and that there is a cache root. -/
def check (s : Settings) : Attempt Unit :=
  match Stage.all.find? fun stage => s.recipe.command? stage == some [] with
  | some stage => .error (.invalidSettings (.emptyCommand stage))
  | none => if s.cacheRoot.isEmpty then .error (.invalidSettings .emptyCacheRoot) else .ok ()

/-- After how many seconds a tool is killed, if at all. -/
def timeout? (s : Settings) : Option UInt64 :=
  if s.timeoutSecs = 0 then none else some s.timeoutSecs

/-- The directory of a suite. -/
def suiteDir (s : Settings) (cacheDir : Path) : Path := s.cacheRoot.join cacheDir

end Settings

end RoundTrip

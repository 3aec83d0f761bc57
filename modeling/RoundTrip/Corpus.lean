import RoundTrip.Launcher
import RoundTrip.Suite
import RoundTrip.Text.Search

/-!
# Preparing a corpus

The corpus of a suite is prepared in stages, each by a command that the recipe gives as a template.
A stage that does not succeed ends the preparation and is reported with its code; nothing here
stops a run.

The words of a template may hold the placeholders `suite`, `target`, `generator` and `cache_dir`,
each in braces. They are filled in one after the other in this order, so that a value which brings
in a later placeholder is filled in again.
-/

namespace RoundTrip.Recipe

/-- A placeholder: a name in braces. -/
def placeholder (name : String) : List Char := '\x7b' :: (name.toList ++ ['\x7d'])

/-- The placeholders and the values that are filled in for a suite, in order. -/
def values (name : String) (suite : Suite) (dir : Path) : List (List Char × List Char) :=
  [(placeholder "suite", name.toList), (placeholder "target", suite.target.toList),
    (placeholder "generator", suite.generator.toList),
    (placeholder "cache_dir", dir.display.toList)]

/-- A word with the values filled in. -/
def fill (values : List (List Char × List Char)) (word : List Char) : List Char :=
  values.foldl (fun word (sought, value) => Text.replaceAll sought value word) word

/-- The words of a command for a suite. -/
def instantiate (template : List String) (name : String) (suite : Suite) (dir : Path) : List String :=
  template.map fun word => String.ofList (fill (values name suite dir) word.toList)

variable {μ : Type}

/-- The command of a stage for a suite, from its words. -/
def stageCommand (stage : Stage) (name : String) (words : List String) : Attempt Command := do
  let c ← Command.ofWords (words.map Utf8.encode)
  return { c with
    fatal := false
    description := some ("Cannot " ++ stage.name ++ " corpus of suite " ++ name) }

/-- Runs the command of a stage and gives its code. -/
def runStage (l : Launcher) (host : Host μ) (stage : Stage) (name : String)
    (words : List String) : Tool μ Int32 :=
  match stageCommand stage name words with
  | .error _ => pure Ending.unlaunchedCode
  | .ok c => do
    Act.emit (.preparing name stage c)
    match ← l.executeCode host c with
    | .ok code => pure code
    | .error _ => pure Ending.unlaunchedCode

/-- Runs stages in order until one fails. -/
def runStages (r : Recipe) (l : Launcher) (host : Host μ) (name : String) (suite : Suite)
    (dir : Path) : List Stage → Tool μ Preparation
  | [] => pure .prepared
  | stage :: rest =>
    match r.command? stage with
    | none => runStages r l host name suite dir rest
    | some template => do
      let code ← runStage l host stage name (instantiate template name suite dir)
      if code ≠ 0 then pure (.failed stage code) else runStages r l host name suite dir rest

/-- Prepares the corpus of a suite. -/
def prepare (r : Recipe) (l : Launcher) (host : Host μ) (name : String) (suite : Suite)
    (dir : Path) : Tool μ Preparation :=
  if r.isEmpty then pure .skipped else runStages r l host name suite dir Stage.all

end RoundTrip.Recipe

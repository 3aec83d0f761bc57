import RoundTrip.Installed
import RoundTrip.Run

/-!
# Rehearsals

A rehearsal is a run with tools that follow a script instead of doing anything, and that may ask
for the run to be cancelled when something happens for the n-th time. Scripted tools and installed
ones can be mixed, so the memory of a rehearsal holds that of the host beside its own counts.
-/

namespace RoundTrip

/-- What a rehearsal counts. -/
inductive Occasion where
  /-- A call of the scripted assembler. -/
  | assemble
  /-- A call of the scripted interpreter. -/
  | interpret
  /-- The mark of an artifact. -/
  | record
  /-- The summary of a suite. -/
  | suite
  deriving DecidableEq, Inhabited

/-- What a scripted tool answers. -/
structure Script (α : Type) where
  /-- The answers for some paths or names of files. -/
  answers : List (String × α) := []
  /-- The answer for all others. -/
  otherwise : α

/-- The answer for a path: that for the whole path, else that for its last component. -/
def Script.answer {α : Type} (s : Script α) (path : Path) : α :=
  match s.answers.lookup path.display with
  | some a => a
  | none =>
    match path.fileName?.bind fun name => s.answers.lookup (Utf8.display name) with
    | some a => a
    | none => s.otherwise

/-- The memory of a rehearsal on a host. -/
structure Rehearsal (μ : Type) where
  /-- The memory of the host. -/
  host : μ
  /-- What has happened so far. -/
  seen : List Occasion := []

namespace Rehearsal

variable {μ α : Type}

/-- A tool of the host in a rehearsal. -/
def onHost (tool : Tool μ α) : Tool (Rehearsal μ) α := fun w =>
  let out := tool.run ⟨w.files, w.memory.host⟩
  ⟨out.value, out.events, ⟨out.state.files, { w.memory with host := out.state.memory }⟩⟩

/-- Notes that something happens, and asks for the run to be cancelled if `schedule` says that this
time is the one. -/
def happen (schedule : List (Occasion × Nat)) (o : Occasion) : Tool (Rehearsal μ) Unit := do
  Act.change fun w => { w with memory := { w.memory with seen := o :: w.memory.seen } }
  let times ← Act.see fun w => w.memory.seen.count o
  if schedule.contains (o, times) then Act.emit .cancel

/-- The call of a scripted tool. -/
def scripted (schedule : List (Occasion × Nat)) (o : Occasion) (script : Script α) (path : Path) :
    Tool (Rehearsal μ) α := do
  happen schedule o
  pure (script.answer path)

end Rehearsal

end RoundTrip

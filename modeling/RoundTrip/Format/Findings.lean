import RoundTrip.Finding
import RoundTrip.Format.Record

/-!
# The JSON forms of findings

An ending is a choice that is written as its name or as an object with its name and number; a
fault is a choice tagged by `kind`. Writing fails on a path that is no text, reading on anything
that is not of the form.
-/

namespace RoundTrip

open Json (record)

/-- The form of a path: its text. -/
def Path.toJson? (p : Path) : Option Json := p.text?.map .str

/-- Reads a path. -/
def Path.ofJson? (j : Json) : Option Path := j.text?.map .ofText

/-- The form of a 32-bit integer. -/
def int32Json (n : Int32) : Json := .int n.toInt

/-- The form of a count. -/
def countJson (n : Nat) : Json := .int n

namespace Ending

/-- The form of an ending. -/
def toJson : Ending → Json
  | .exited status => record [("exited", int32Json status)]
  | .signaled signal => record [("signaled", int32Json signal)]
  | .timedOut => .str "timed_out"
  | .launchFailed => .str "launch_failed"

/-- The ending without a number that has a name. -/
def ofName? : String → Option Ending
  | "timed_out" => some .timedOut
  | "launch_failed" => some .launchFailed
  | _ => none

/-- Reads an ending, where `bare` reads a name without content. -/
def ofJsonWith? (bare : Json → Option String) (j : Json) : Option Ending :=
  match j.choice? with
  | some ("exited", some content) => content.int32?.map .exited
  | some ("signaled", some content) => content.int32?.map .signaled
  | _ => (bare j).bind ofName?

/-- Reads an ending. -/
def ofJson? : Json → Option Ending := ofJsonWith? Json.bareChoice?

/-- Reads an ending inside a tagged choice. -/
def ofInnerJson? : Json → Option Ending := ofJsonWith? Json.innerBareChoice?

end Ending

namespace Fault

/-- The form of a fault. -/
def toJson : Fault → Json
  | .rejected code => record [("kind", .str "assembly_failed"), ("exit_code", int32Json code)]
  | .referenceMissing => record [("kind", .str "missing_reference")]
  | .endingsDiffer reference regenerated =>
    record [("kind", .str "behavior_mismatch"), ("reference", reference.toJson),
      ("regenerated", regenerated.toJson)]

/-- Reads a fault inside `opened` arrays and objects. -/
def ofJson? (opened : Nat) (j : Json) : Option Fault := do
  let (name, content) ← j.tagged? "kind" opened
  match name with
  | "assembly_failed" =>
    match ← content.fields? .full ["exit_code"] with
    | [some code] => some (.rejected (← code.int32?))
    | _ => none
  | "missing_reference" => if content.isFieldless then some .referenceMissing else none
  | "behavior_mismatch" =>
    match ← content.fields? .full ["reference", "regenerated"] with
    | [some reference, some regenerated] =>
      some (.endingsDiffer (← Ending.ofInnerJson? reference) (← Ending.ofInnerJson? regenerated))
    | _ => none
  | _ => none

end Fault

namespace Failed

/-- The form of an artifact that fails. -/
def toJson? (f : Failed) : Option Json := do
  some (record [("path", ← f.path.toJson?), ("cause", f.fault.toJson)])

/-- Reads an artifact that fails, inside `opened` arrays and objects. -/
def ofJson? (opened : Nat) (j : Json) : Option Failed := do
  match ← j.fields? .full ["path", "cause"] with
  | [some path, some cause] =>
    some ⟨← Path.ofJson? path, ← Fault.ofJson? (opened + 1) cause⟩
  | _ => none

end Failed

namespace Tally

/-- The form of a tally. -/
def toJson? (t : Tally) : Option Json := do
  some (record [("passed", .list (← t.passed.mapM Path.toJson?)),
    ("failed", .list (← t.failed.mapM Failed.toJson?)), ("cancelled", .bool t.cancelled)])

/-- Reads a tally. -/
def ofJson? (j : Json) : Option Tally := do
  match ← j.fields? .full ["passed", "failed", "cancelled"] with
  | [some passed, some failed, some cancelled] =>
    some ⟨← passed.listOf? Path.ofJson?, ← failed.listOf? (Failed.ofJson? 2), ← cancelled.bool?⟩
  | _ => none

end Tally

namespace Artifact

/-- The form of an artifact. -/
def toJson? (a : Artifact) : Option Json := do
  some (record [("reference_binary", ← a.reference.toJson?),
    ("regenerated_text", ← a.text.toJson?), ("regenerated_binary", ← a.binary.toJson?)])

/-- Reads an artifact. -/
def ofJson? (j : Json) : Option Artifact := do
  match ← j.fields? .full ["reference_binary", "regenerated_text", "regenerated_binary"] with
  | [some reference, some text, some binary] =>
    some ⟨← Path.ofJson? reference, ← Path.ofJson? text, ← Path.ofJson? binary⟩
  | _ => none

end Artifact

end RoundTrip

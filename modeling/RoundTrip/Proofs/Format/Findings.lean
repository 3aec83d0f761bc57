import RoundTrip.Proofs.Format.Records

/-!
# The forms of findings are read back

An ending is read back where it stands alone and inside a fault, where it is read after the tag of
the fault. A fault is a choice with a tag, so its other fields have to be plain; they are, since
they hold 32-bit integers and names and nest by one level only (`Ending.isPlain_toJson`). What holds
of a fault holds of the artifacts that fail, and of a tally of them.
-/

namespace RoundTrip

open Json (record Faithful)

namespace Ending

/-- The form of an ending is regular. -/
@[simp] theorem isRegular_toJson (e : Ending) : e.toJson.isRegular = true := by
  cases e <;> simp [toJson, int32Json]

/-- The form of an ending is plain, where it may open one object. -/
@[simp] theorem isPlain_toJson (e : Ending) (room : Nat) : e.toJson.isPlain (room + 1) = true := by
  cases e <;> simp [toJson, record, Json.isPlain, Json.areMembersPlain]

/-- An ending is read back. -/
@[simp] theorem ofJson?_toJson (e : Ending) : ofJson? e.toJson = some e := by
  cases e <;> simp [ofJson?, ofJsonWith?, toJson, record, Json.choice?, Json.bareChoice?, ofName?]

/-- An ending is read back inside a choice with a tag. -/
@[simp] theorem ofInnerJson?_toJson (e : Ending) : ofInnerJson? e.toJson = some e := by
  cases e <;>
    simp [ofInnerJson?, ofJsonWith?, toJson, record, Json.choice?, Json.innerBareChoice?, ofName?]

end Ending

namespace Fault

/-- The form of a fault is regular. -/
@[simp] theorem isRegular_toJson (f : Fault) : f.toJson.isRegular = true := by
  cases f <;> simp [toJson, int32Json]

/-- A fault is read back, wherever it does not stand too deep for an ending inside it. -/
theorem ofJson?_toJson (f : Fault) {opened : Nat} (h : opened + 2 ≤ Json.depthLimit) :
    ofJson? opened f.toJson = some f := by
  obtain ⟨room, hroom⟩ : ∃ room, Json.depthLimit - opened - 1 = room + 1 :=
    ⟨Json.depthLimit - opened - 2, by omega⟩
  cases f with
  | rejected code =>
    have htag := Json.tagged?_record "kind" "assembly_failed" opened
      [("exit_code", int32Json code)] (by simp) (by simp [Json.areMembersPlain])
    have hfields : (record [("exit_code", int32Json code)]).fields? .full ["exit_code"] =
        some [some (int32Json code)] := Json.fields?_record _ [_] (by simp)
    simp [ofJson?, toJson, htag, hfields]
  | referenceMissing =>
    have htag := Json.tagged?_record "kind" "missing_reference" opened [] (by simp) rfl
    rw [ofJson?, toJson, htag]
    rfl
  | endingsDiffer reference regenerated =>
    have htag := Json.tagged?_record "kind" "behavior_mismatch" opened
      [("reference", reference.toJson), ("regenerated", regenerated.toJson)] (by simp)
      (by simp [hroom, Json.areMembersPlain])
    have hfields : (record [("reference", reference.toJson),
        ("regenerated", regenerated.toJson)]).fields? .full ["reference", "regenerated"] =
        some [some reference.toJson, some regenerated.toJson] :=
      Json.fields?_record _ [_, _] (by simp)
    simp [ofJson?, toJson, htag, hfields]

end Fault

/-- The form of an artifact that fails is faithful. -/
theorem Failed.faithful (f : Failed) (opened : Nat) (h : opened + 3 ≤ Json.depthLimit) :
    Faithful f.toJson? [f.path] (ofJson? opened) f := by
  refine (Json.faithful_path f.path).bind fun path hpath hread => .intro (by simp [hpath]) ?_
  have hfields : (record [("path", path), ("cause", f.fault.toJson)]).fields? .full
      ["path", "cause"] = some [some path, some f.fault.toJson] :=
    Json.fields?_record _ [_, _] (by simp)
  simp [ofJson?, hfields, hread, f.fault.ofJson?_toJson h]

namespace Tally

/-- The paths that the form of a tally holds. -/
def paths (t : Tally) : List Path := t.passed ++ t.pathsOfFailed

/-- The form of a tally is faithful. -/
theorem faithful (t : Tally) : Faithful t.toJson? t.paths ofJson? t := by
  have hpaths : t.paths = t.passed.flatMap (fun p => [p]) ++
      (t.failed.flatMap (fun f => [f.path]) ++ []) := by
    simp [paths, pathsOfFailed, List.flatMap_singleton', List.map_eq_flatMap]
  rw [hpaths]
  refine .bindList (fun p _ => Json.faithful_path p) fun passed hpassed hreadPassed =>
    .bindList (fun f _ => f.faithful 2 (by decide)) fun failed hfailed hreadFailed =>
      .intro (by simp [hpassed, hfailed]) ?_
  have hfields : (record [("passed", .list passed), ("failed", .list failed),
      ("cancelled", .bool t.cancelled)]).fields? .full ["passed", "failed", "cancelled"] =
      some [some (.list passed), some (.list failed), some (.bool t.cancelled)] :=
    Json.fields?_record _ [_, _, _] (by simp)
  simp [ofJson?, hfields, hreadPassed, hreadFailed, Json.bool?]

end Tally

namespace Artifact

/-- The paths of an artifact. -/
def paths (a : Artifact) : List Path := [a.reference, a.text, a.binary]

/-- The form of an artifact is faithful. -/
theorem faithful (a : Artifact) : Faithful a.toJson? a.paths ofJson? a := by
  refine (Json.faithful_path a.reference).bind fun reference hreference hreadReference =>
    (Json.faithful_path a.text).bind fun text htext hreadText =>
      (Json.faithful_path a.binary).bind fun binary hbinary hreadBinary =>
        .intro (by simp [hreference, htext, hbinary]) ?_
  have hfields : (record [("reference_binary", reference), ("regenerated_text", text),
      ("regenerated_binary", binary)]).fields? .full
      ["reference_binary", "regenerated_text", "regenerated_binary"] =
      some [some reference, some text, some binary] :=
    Json.fields?_record _ [_, _, _] (by simp)
  simp [ofJson?, hfields, hreadReference, hreadText, hreadBinary]

end Artifact

end RoundTrip

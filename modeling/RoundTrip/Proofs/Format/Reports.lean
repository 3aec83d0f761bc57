import RoundTrip.Format.Report
import RoundTrip.Proofs.Format.Findings
import RoundTrip.Proofs.Format.Times

/-!
# The form of a report is read back

The counts of a report are bounded where it is read, so a report is read back that stays in these
bounds (`Report.IsWithin`) and was made at a point in time that there is. Nothing else is asked of
it: `Report.faithful` holds of all texts, all endings and faults, and any number of entries.
-/

namespace RoundTrip

open Json (record Faithful)

/-- The stage that has the name of a stage is that stage. -/
@[simp] theorem Stage.ofName?_name (s : Stage) : ofName? s.name = some s := by
  cases s <;> rfl

namespace Preparation

/-- The form of a preparation is regular. -/
@[simp] theorem isRegular_toJson (p : Preparation) : p.toJson.isRegular = true := by
  cases p <;> simp [toJson, Stage.toJson, int32Json]

/-- A preparation is read back, wherever it stands. -/
@[simp] theorem ofJson?_toJson (p : Preparation) (opened : Nat) :
    ofJson? opened p.toJson = some p := by
  cases p with
  | skipped =>
    have htag := Json.tagged?_record "status" "skipped" opened [] (by simp) rfl
    rw [ofJson?, toJson, htag]
    rfl
  | prepared =>
    have htag := Json.tagged?_record "status" "prepared" opened [] (by simp) rfl
    rw [ofJson?, toJson, htag]
    rfl
  | failed stage code =>
    have htag := Json.tagged?_record "status" "failed" opened
      [("step", stage.toJson), ("exit_code", int32Json code)] (by simp)
      (by simp [Json.areMembersPlain, Stage.toJson, Json.isPlain])
    have hfields : (record [("step", stage.toJson), ("exit_code", int32Json code)]).fields? .full
        ["step", "exit_code"] = some [some stage.toJson, some (int32Json code)] :=
      Json.fields?_record _ [_, _] (by simp)
    have hstage : Stage.ofInnerJson? stage.toJson = some stage := stage.ofName?_name
    simp [ofJson?, toJson, htag, hfields, hstage]

end Preparation

/-- A kind of verdict is read back. -/
@[simp] theorem VerdictClass.ofJson?_toJson (k : VerdictClass) : ofJson? k.toJson = some k := by
  cases k <;> rfl

namespace Verdict

/-- The counts of a verdict can be read. -/
structure IsWithin (v : Verdict) : Prop where
  total : v.total < 2 ^ 64
  passed : v.passed < 2 ^ 64
  failed : v.failed < 2 ^ 64

/-- The form of a verdict is regular. -/
@[simp] theorem isRegular_toJson (v : Verdict) : v.toJson.isRegular = true := by
  simp [toJson, VerdictClass.toJson, countJson]

/-- A verdict is read back. -/
theorem ofJson?_toJson {v : Verdict} (h : v.IsWithin) : ofJson? v.toJson = some v := by
  have hfields : v.toJson.fields? .full
      ["kind", "total", "passed", "failed", "message", "failures"] =
      some [some v.kind.toJson, some (countJson v.total), some (countJson v.passed),
        some (countJson v.failed), some (.str v.message), some (.texts v.failures)] :=
    Json.fields?_record _ [_, _, _, _, _, _] (by simp)
  simp [ofJson?, hfields, Json.count?_countJson h.total, Json.count?_countJson h.passed,
    Json.count?_countJson h.failed, Json.text?]

end Verdict

namespace SuiteEntry

/-- The counts of an entry can be read. -/
structure IsWithin (e : SuiteEntry) : Prop where
  verdict : e.verdict.IsWithin
  durationMs : e.durationMs < 2 ^ 64

/-- The paths that the form of an entry holds. -/
def paths (e : SuiteEntry) : List Path := e.cacheDir :: e.failedArtifacts.map Failed.path

/-- The form of an entry is faithful. -/
theorem faithful {e : SuiteEntry} (h : e.IsWithin) (opened : Nat)
    (hopened : opened + 5 ≤ Json.depthLimit) :
    Faithful e.toJson? e.paths (ofJson? opened) e := by
  have hpaths : e.paths =
      [e.cacheDir] ++ (e.failedArtifacts.flatMap (fun f => [f.path]) ++ []) := by
    simp [paths, List.map_eq_flatMap]
  rw [hpaths]
  refine (Json.faithful_path e.cacheDir).bind fun cacheDir hcacheDir hreadCacheDir =>
    .bindList (fun f _ => f.faithful (opened + 2) (by omega)) fun failed hfailed hreadFailed =>
      .intro (by simp [hcacheDir, hfailed, countJson]) ?_
  have hfields : (record [("suite", .str e.suite), ("cache_dir", cacheDir),
      ("corpus", e.corpus.toJson), ("verdict", e.verdict.toJson),
      ("failed_artifacts", .list failed), ("duration_ms", countJson e.durationMs)]).fields? .full
      ["suite", "cache_dir", "corpus", "verdict", "failed_artifacts", "duration_ms"] =
      some [some (.str e.suite), some cacheDir, some e.corpus.toJson, some e.verdict.toJson,
        some (.list failed), some (countJson e.durationMs)] :=
    Json.fields?_record _ [_, _, _, _, _, _] (by simp)
  simp [ofJson?, hfields, hreadCacheDir, hreadFailed, Verdict.ofJson?_toJson h.verdict,
    Json.count?_countJson h.durationMs, Json.text?]

end SuiteEntry

namespace Timestamp

/-- The form of a point in time is regular. -/
@[simp] theorem isRegular_toJson (t : Timestamp) : t.toJson.isRegular = true := rfl

/-- A point in time is read back. -/
theorem ofJson?_toJson {t : Timestamp} (h : t.IsValid) : ofJson? t.toJson = some t := by
  rw [toJson, ofJson?, Json.text?, Option.bind_some, ofText?_text h]

end Timestamp

namespace Report

/-- The counts of a report can be read, and it was made at a point in time. -/
structure IsWithin (r : Report) : Prop where
  generatedAt : r.generatedAt.IsValid
  suites : ∀ e ∈ r.suites, e.IsWithin
  durationMs : r.durationMs < 2 ^ 64

/-- The paths that the form of a report holds: the directories of the suites, and the artifacts
that fail. -/
def paths (r : Report) : List Path := r.suites.flatMap SuiteEntry.paths

/-- The form of a report is faithful. -/
theorem faithful {r : Report} (h : r.IsWithin) : Faithful r.toJson? r.paths ofJson? r := by
  have hpaths : r.paths = r.suites.flatMap SuiteEntry.paths ++ [] := (List.append_nil _).symm
  rw [hpaths]
  refine .bindList (fun e he => SuiteEntry.faithful (h.suites e he) 2 (by decide))
    fun suites hsuites hreadSuites => .intro (by simp [hsuites, countJson]) ?_
  have hfields : (record [("run_id", .str r.runId), ("generation", .str r.generation),
      ("generated_at", r.generatedAt.toJson), ("success", .bool r.success),
      ("suites", .list suites), ("duration_ms", countJson r.durationMs)]).fields? .full
      ["run_id", "generation", "generated_at", "success", "suites", "duration_ms"] =
      some [some (.str r.runId), some (.str r.generation), some r.generatedAt.toJson,
        some (.bool r.success), some (.list suites), some (countJson r.durationMs)] :=
    Json.fields?_record _ [_, _, _, _, _, _] (by simp)
  -- proved by rewriting, since the point in time must not be computed
  simp -implicitDefEqProofs [ofJson?, hfields, Timestamp.ofJson?_toJson h.generatedAt,
    hreadSuites, Json.count?_countJson h.durationMs, Json.text?, Json.bool?]

/-- A report has no form just if the directory of a suite is no text, or the path of an artifact
that fails. -/
theorem toJson?_eq_none_iff {r : Report} (h : r.IsWithin) :
    r.toJson? = none ↔ ∃ e ∈ r.suites,
      e.cacheDir.text? = none ∨ ∃ f ∈ e.failedArtifacts, f.path.text? = none := by
  have hpaths : ∀ p, p ∈ r.paths ↔
      ∃ e ∈ r.suites, p = e.cacheDir ∨ ∃ f ∈ e.failedArtifacts, f.path = p := by
    simp [paths, SuiteEntry.paths]
  rw [(faithful h).eq_none_iff]
  constructor
  · rintro ⟨p, hp, hnone⟩
    obtain ⟨e, he, rfl | ⟨f, hf, rfl⟩⟩ := (hpaths p).1 hp
    · exact ⟨e, he, .inl hnone⟩
    · exact ⟨e, he, .inr ⟨f, hf, hnone⟩⟩
  · rintro ⟨e, he, hnone | ⟨f, hf, hnone⟩⟩
    · exact ⟨e.cacheDir, (hpaths _).2 ⟨e, he, .inl rfl⟩, hnone⟩
    · exact ⟨f.path, (hpaths _).2 ⟨e, he, .inr ⟨f, hf, rfl⟩⟩, hnone⟩

end Report

end RoundTrip

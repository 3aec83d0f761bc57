import RoundTrip.Proofs.Files.Directories
import RoundTrip.Proofs.Files.Writing
import RoundTrip.Proofs.Format.Reports
import RoundTrip.Proofs.Format.Settings
import RoundTrip.Storage

/-!
# What is saved is read back

A report is saved where its form can be written, and the file holds its text then, from which the
report is read back. Where a path in the report is no text, nothing is written: the directories that
the file should lie in have been made, and all files are as they were (`Report.save_of_eq_none`).
`formats_read_back` says this of reports, and of all other values that are written as JSON that they
are read back.
-/

namespace RoundTrip

open Json (ReadsBack)

namespace Report

/-- Making room for a file makes nothing but directories. -/
theorem makeRoom_grown (files : FileTree) (path : Path) : files.Grown (makeRoom files path).1 := by
  rw [makeRoom]
  split
  · split
    · exact .refl files
    · exact files.makeDirs_grown _
  · exact .refl files

/-- A report without a form is not saved: the room for it is made, and nothing else. -/
theorem save_of_eq_none {r : Report} (h : r.toJson? = none) (path : Path) (files : FileTree) :
    (r.save path files).1 = (makeRoom files path).1 ∧
      (r.save path files).2 = match (makeRoom files path).2 with
        | .ok () => .error (.json .pathNotText)
        | .error reason => .error (.io reason) := by
  rw [save, pretty?, h]
  obtain ⟨room, reason | ⟨⟩⟩ := makeRoom files path
  · exact ⟨rfl, rfl⟩
  · exact ⟨rfl, rfl⟩

/-- A report is saved just if it has a form, there is room for its file, and the text of the form
can be written to it. -/
theorem save_eq_ok_iff (r : Report) (path : Path) (files : FileTree) :
    (r.save path files).2 = .ok () ↔ ∃ j, r.toJson? = some j ∧ (makeRoom files path).2 = .ok () ∧
      (makeRoom files path).1.write path (Utf8.encode (j.toText .indented)) =
        .ok (r.save path files).1 := by
  cases hj : r.toJson? with
  | none =>
    rw [(save_of_eq_none hj path files).2]
    constructor
    · intro h
      split at h <;> cases h
    · rintro ⟨j, hnone, -⟩
      cases hnone
  | some j =>
    rw [save, pretty?, hj]
    generalize makeRoom files path = made
    obtain ⟨room, reason | ⟨⟩⟩ := made
    · constructor
      · intro h
        cases h
      · rintro ⟨-, -, hroom, -⟩
        cases hroom
    · dsimp only [Option.map_some, Json.pretty]
      constructor
      · intro h
        refine ⟨j, rfl, rfl, ?_⟩
        split at h
        · cases h
        · assumption
      · rintro ⟨_, ⟨⟩, -, hwrite⟩
        rw [hwrite]

/-- A report that was saved is read from its file, unless that is the null device. -/
theorem readText_save {r : Report} {path : Path} {files : FileTree} {j : Json}
    (hj : r.toJson? = some j) (h : (r.save path files).2 = .ok ()) :
    (r.save path files).1.node path = .ok .null ∨
      (r.save path files).1.readText path = .ok (j.toText .indented) := by
  obtain ⟨_, hj', -, hwrite⟩ := (save_eq_ok_iff r path files).1 h
  obtain rfl := Option.some.inj (hj.symm.trans hj')
  refine (FileTree.read_write hwrite).imp_right fun hread => ?_
  rw [FileTree.readText, hread]
  dsimp only [bind, Except.bind]
  rw [Utf8.decode?_encode]

/-- A report about one suite, of which one artifact fails. -/
def sample (cacheDir : Path) : Report where
  runId := "run 1"
  generation := "3.8"
  generatedAt := ⟨2024, 2, 29, 23, 59, 59, 120000000⟩
  success := false
  suites := [{
    suite := "a suite", cacheDir, corpus := .failed .compile (-1)
    verdict := ⟨.failed, 1, 0, 1, "0/1", ["0) a.out.ll"]⟩
    failedArtifacts := [⟨.ofText "a.out.ll", .endingsDiffer (.exited 0) (.signaled 11)⟩]
    durationMs := 7 }]
  durationMs := 7

/-- The counts of the report can be read, wherever the suite lies. -/
theorem isWithin_sample (cacheDir : Path) : (sample cacheDir).IsWithin where
  generatedAt := (by decide : Timestamp.IsValid ⟨2024, 2, 29, 23, 59, 59, 120000000⟩)
  suites e he := by
    obtain rfl := List.mem_singleton.1 he
    exact ⟨⟨by simp, by simp, by simp⟩, by simp⟩
  durationMs := (by decide : 7 < 2 ^ 64)

end Report

/-- What is written as JSON is read back. A report has a form unless a path in it is no text, and it
is read back from the text of its form in both layouts. If it has no form, saving it fails, and no
file, link or device is made, changed or removed by that. If it has one, it is saved unless there is
no room for its file or the file cannot be written, and then its file holds its indented text.
Tallies, suites, artifacts, version lists and settings are read back where their paths are
texts. -/
theorem formats_read_back :
    (∀ r : Report, r.IsWithin →
      (r.toJson? = none ↔ ∃ e ∈ r.suites,
        e.cacheDir.text? = none ∨ ∃ f ∈ e.failedArtifacts, f.path.text? = none) ∧
      ∀ j, r.toJson? = some j → ∀ layout,
        (Json.ofText? (j.toText layout)).bind Report.ofJson? = some r) ∧
    (∀ (r : Report) (path : Path) (files : FileTree),
      let saved := r.save path files
      (r.toJson? = none →
        ((Report.makeRoom files path).2 = .ok () → saved.2 = .error (.json .pathNotText)) ∧
        (∀ reason, (Report.makeRoom files path).2 = .error reason →
          saved.2 = .error (.io reason)) ∧
        (∀ place node, node.isDir = false →
          (saved.1.root.at? place = some node ↔ files.root.at? place = some node)) ∧
        ∀ p content, files.read p = .ok content → saved.1.read p = .ok content) ∧
      (saved.2 = .ok () ↔ ∃ j, r.toJson? = some j ∧ (Report.makeRoom files path).2 = .ok () ∧
        (Report.makeRoom files path).1.write path (Utf8.encode (j.toText .indented)) =
          .ok saved.1) ∧
      ∀ j, r.toJson? = some j → saved.2 = .ok () →
        saved.1.node path = .ok .null ∨ saved.1.readText path = .ok (j.toText .indented)) ∧
    (∀ t : Tally, (∀ p ∈ t.paths, p.text?.isSome = true) → ReadsBack t.toJson? Tally.ofJson? t) ∧
    (∀ s : Suite, s.cacheDir.text?.isSome = true → ReadsBack s.toJson? Suite.ofJson? s) ∧
    (∀ a : Artifact, (∀ p ∈ a.paths, p.text?.isSome = true) →
      ReadsBack a.toJson? Artifact.ofJson? a) ∧
    (∀ v : VersionList, ReadsBack (some v.toJson) VersionList.ofJson? v) ∧
    ∀ s : Settings, (∀ p ∈ s.paths, p.text?.isSome = true) →
      ReadsBack s.toJson? Settings.ofJson? s := by
  refine ⟨fun r h => ⟨Report.toJson?_eq_none_iff h, fun j => (Report.faithful h).ofText?_toText⟩,
    fun r path files => ⟨fun h => ?_, r.save_eq_ok_iff path files,
      fun _ hj => Report.readText_save hj⟩, fun t => t.faithful.readsBack,
    fun s hs => s.faithful.readsBack (by simpa using hs), fun a => a.faithful.readsBack,
    fun v => v.faithful.readsBack (by simp), fun s => s.faithful.readsBack⟩
  obtain ⟨hfiles, houtcome⟩ := Report.save_of_eq_none h path files
  have hgrown := Report.makeRoom_grown files path
  rw [← hfiles] at hgrown
  refine ⟨fun hroom => ?_, fun reason hroom => ?_, fun place node hdir => hgrown.root.at?_iff hdir,
    fun p content => hgrown.read⟩
  · rw [houtcome, hroom]
  · rw [houtcome, hroom]

/-- A report that has a form is saved and read back, one that has none leaves the file that it
should be written to as it was, and values of the other kinds are read back. -/
theorem formats_read_back_sample :
    let files : FileTree := ⟨.dir [(Utf8.encode "r", .file [1] 0)], []⟩
    (∃ j, (Report.sample (.ofText "d")).toJson? = some j ∧
      (Json.ofText? (j.toText .indented)).bind Report.ofJson? = some (Report.sample (.ofText "d")) ∧
      ((Report.sample (.ofText "d")).save (.ofText "r") files).1.readText (.ofText "r") =
        .ok (j.toText .indented)) ∧
    (Report.sample ⟨[0xFF]⟩).toJson? = none ∧
    ((Report.sample ⟨[0xFF]⟩).save (.ofText "r") files).2 = .error (.json .pathNotText) ∧
    ((Report.sample ⟨[0xFF]⟩).save (.ofText "r") files).1.read (.ofText "r") = .ok [1] ∧
    ReadsBack (Tally.toJson? ⟨[.ofText "a"], [], false⟩) Tally.ofJson? ⟨[.ofText "a"], [], false⟩ ∧
    ReadsBack (Suite.toJson? ⟨"a", "b", .ofText "d"⟩) Suite.ofJson? ⟨"a", "b", .ofText "d"⟩ ∧
    ReadsBack (Artifact.toJson? ⟨.ofText "a", .ofText "b", .ofText "c"⟩) Artifact.ofJson?
      ⟨.ofText "a", .ofText "b", .ofText "c"⟩ ∧
    ReadsBack (Settings.toJson? {}) Settings.ofJson? {} := by
  intro files
  obtain ⟨hreport, hsave, htally, hsuite, hartifact, -, hsettings⟩ := formats_read_back
  have hsome : (Report.sample (.ofText "d")).toJson? ≠ none := by
    rw [Ne, (hreport _ (Report.isWithin_sample _)).1]
    simp [Report.sample]
  have hnone : (Report.sample ⟨[0xFF]⟩).toJson? = none := by
    rw [(hreport _ (Report.isWithin_sample _)).1]
    exact ⟨_, List.mem_singleton_self _, .inl (by decide +kernel)⟩
  obtain ⟨j, hj⟩ := Option.ne_none_iff_exists'.1 hsome
  have hroom : Report.makeRoom files (.ofText "r") = (files, .ok ()) := rfl
  have hwrite : ∀ content, files.write (.ofText "r") content =
      .ok ⟨.dir [(Utf8.encode "r", .file content 0)], []⟩ := fun _ => rfl
  obtain ⟨hfails, -⟩ := hsave (Report.sample ⟨[0xFF]⟩) (.ofText "r") files
  obtain ⟨herror, -, -, hread⟩ := hfails hnone
  obtain ⟨-, hok, hsaved⟩ := hsave (Report.sample (.ofText "d")) (.ofText "r") files
  have hafter : (Report.sample (.ofText "d")).save (.ofText "r") files =
      (⟨.dir [(Utf8.encode "r", .file (Utf8.encode j.pretty) 0)], []⟩, .ok ()) := by
    simp only [Report.save, hroom, Report.pretty?, hj, Option.map_some, hwrite]
  have hsucceeds : ((Report.sample (.ofText "d")).save (.ofText "r") files).2 = .ok () :=
    hok.2 ⟨j, hj, rfl, by rw [hafter]; rfl⟩
  obtain hnull | htext := hsaved j hj hsucceeds
  · rw [hafter] at hnull
    cases hnull
  refine ⟨⟨j, hj, (hreport _ (Report.isWithin_sample _)).2 j hj .indented, htext⟩, hnone,
    herror rfl, hread _ _ rfl, htally _ ?_, hsuite _ ?_, hartifact _ ?_, hsettings _ ?_⟩
  · simp [Tally.paths, Tally.pathsOfFailed]
  · simp
  · simp [Artifact.paths]
  · simp [Settings.paths]

end RoundTrip

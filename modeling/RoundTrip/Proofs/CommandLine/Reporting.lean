import RoundTrip.Proofs.Format.Saving

/-!
# Whether a report can be written

A report is saved just if all paths in it are texts, the directories that its file should lie in can
be made, and the file can be written (`Report.save_eq_ok_iff_writable`). Nothing else is asked of
it, whatever it counts, and its file then says whether the run was a success.
-/

namespace RoundTrip

open Json (record Faithful)

/-- Whether a file can be written does not depend on what is written. -/
theorem FileTree.exists_write_iff (files : FileTree) (path : Path) (content content' : Bytes) :
    (∃ files', files.write path content = .ok files') ↔
      ∃ files', files.write path content' = .ok files' := by
  simp only [write, update, updateAs]
  split
  · simp
  · split <;> simp

/-- The form of an entry is regular, and there is one unless a path in it is no text. -/
theorem SuiteEntry.formed (e : SuiteEntry) :
    Faithful e.toJson? e.paths (fun _ => some ()) () := by
  have hpaths : e.paths =
      [e.cacheDir] ++ (e.failedArtifacts.flatMap (fun f => [f.path]) ++ []) := by
    simp [paths, List.map_eq_flatMap]
  rw [hpaths]
  exact (Json.faithful_path e.cacheDir).bind fun cacheDir hcacheDir _ =>
    .bindList (fun f _ => f.faithful 0 (by decide)) fun failed hfailed _ =>
      .intro (by simp [hcacheDir, hfailed, countJson]) rfl

namespace Report

/-- What a form says about the success of a run. -/
def readSuccess? (j : Json) : Option Bool := (j.get? "success").bind Json.bool?

/-- The form of a report says whether the run was a success, and there is one unless a path in it is
no text. -/
theorem formed (r : Report) : Faithful r.toJson? r.paths readSuccess? r.success := by
  have hpaths : r.paths = r.suites.flatMap SuiteEntry.paths ++ [] := (List.append_nil _).symm
  rw [hpaths]
  exact .bindMap (fun e _ => e.formed) fun suites hsuites _ =>
    .intro (by simp [hsuites, countJson]) rfl

/-- A report can be written to a file: the paths in it are texts, the directories that the file lies
in are there or can be made, and the file can be written. -/
structure Writable (r : Report) (path : Path) (files : FileTree) : Prop where
  texts : ∀ p ∈ r.paths, p.text?.isSome = true
  room : (makeRoom files path).2 = .ok ()
  file : ∀ content, ∃ files', (makeRoom files path).1.write path content = .ok files'

/-- A report is saved just if it can be written. -/
theorem save_eq_ok_iff_writable (r : Report) (path : Path) (files : FileTree) :
    (r.save path files).2 = .ok () ↔ r.Writable path files := by
  rw [save_eq_ok_iff]
  constructor
  · rintro ⟨j, hj, hroom, hwrite⟩
    exact ⟨r.formed.isSome_iff.1 (by rw [hj]; rfl), hroom, fun content =>
      (FileTree.exists_write_iff _ path content _).2 ⟨_, hwrite⟩⟩
  · intro h
    obtain ⟨j, hj⟩ := Option.isSome_iff_exists.1 (r.formed.isSome_iff.2 h.texts)
    obtain ⟨files', hwrite⟩ := h.file (Utf8.encode (j.toText .indented))
    refine ⟨j, hj, h.room, ?_⟩
    have hroom := h.room
    rw [save, pretty?, hj]
    generalize makeRoom files path = made at hroom hwrite
    obtain ⟨room, reason | ⟨⟩⟩ := made
    · cases hroom
    · dsimp only [Option.map_some, Json.pretty] at hwrite ⊢
      rw [hwrite]

/-- Of a report that cannot be written no file is made or changed: at most directories are made. -/
theorem save_grown {r : Report} {path : Path} {files : FileTree} (h : ¬ r.Writable path files) :
    files.Grown (r.save path files).1 := by
  have hgrown := makeRoom_grown files path
  rw [← save_eq_ok_iff_writable, save] at h
  rw [save]
  generalize makeRoom files path = made at h hgrown
  obtain ⟨room, reason | ⟨⟩⟩ := made
  · exact hgrown
  · dsimp only at h hgrown ⊢
    split at h
    · exact hgrown
    · split at h
      · exact hgrown
      · exact absurd rfl h

/-- A report that can be written is read in its file, which says whether the run was a success,
unless the file is the null device. -/
theorem Writable.read {r : Report} {path : Path} {files : FileTree} (h : r.Writable path files) :
    (r.save path files).1.node path = .ok .null ∨
      ∃ text j, (r.save path files).1.readText path = .ok text ∧ r.pretty? = some text ∧
        Json.ofText? text = some j ∧ readSuccess? j = some r.success := by
  obtain ⟨j, hj⟩ := Option.isSome_iff_exists.1 (r.formed.isSome_iff.2 h.texts)
  refine (readText_save hj ((save_eq_ok_iff_writable r path files).2 h)).imp_right fun hread => ?_
  exact ⟨j.toText .indented, j, hread, by rw [pretty?, hj]; rfl,
    Json.ofText?_toText .indented (r.formed.isRegular j hj), r.formed.read_eq j hj⟩

end Report

end RoundTrip

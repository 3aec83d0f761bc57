import RoundTrip.Proofs.Discovery.Texts

/-!
# The names of an artifact

A path is that of a regenerated text just if its last component is a stem with the suffix of texts
behind it (`isSome_ofPath?_iff`). The three paths of an artifact then have the same parent, and
their names are the stem with three suffixes (`NamedIn`, `exists_namedIn`). A name gives away its
stem, if the suffix is known, and a path gives away its parent (`eq_of_components`). So an artifact
can be told by its reference alone, and artifacts whose texts have different names share neither a
reference nor a binary (`ofPath?_named`).
-/

namespace RoundTrip.Artifact

open RoundTrip.Path (IsName)

/-- The binaries of a text have names. -/
theorem isName_binaries {stem : String} (h : IsName (Utf8.encode (stem ++ textSuffix))) :
    IsName (Utf8.encode (stem ++ referenceSuffix)) ∧
      IsName (Utf8.encode (stem ++ binarySuffix)) := by
  rw [Utf8.encode_append] at *
  rw [Utf8.encode_append]
  exact ⟨h.append (by decide +kernel) (by decide +kernel),
    h.append (by decide +kernel) (by decide +kernel)⟩

/-- A name with a suffix has one stem. -/
theorem encode_append_inj {stem stem' suffix : String}
    (h : Utf8.encode (stem ++ suffix) = Utf8.encode (stem' ++ suffix)) : stem = stem' :=
  (append_inj (Utf8.encode_injective h) rfl).1

/-- The name of a text is that of no reference binary. -/
theorem text_ne_reference (a b : String) :
    Utf8.encode (a ++ textSuffix) ≠ Utf8.encode (b ++ referenceSuffix) := by
  intro h
  have hsuffix : textSuffix = ".out" ++ ".ll" := by decide +kernel
  rw [hsuffix, ← String.append_assoc] at h
  have := (append_inj (Utf8.encode_injective h) (by simp [referenceSuffix])).2
  simp [referenceSuffix] at this

/-- A path is that of a text just if its last component is a stem with the suffix of texts. -/
theorem isSome_ofPath?_iff (p : Path) :
    (ofPath? p).isSome = true ↔
      ∃ stem, stem ≠ "" ∧ p.fileName? = some (Utf8.encode (stem ++ textSuffix)) := by
  constructor
  · intro h
    obtain ⟨a, ha⟩ := Option.isSome_iff_exists.1 h
    simp only [ofPath?, Option.bind_eq_bind, Option.bind_eq_some_iff] at ha
    obtain ⟨name, hname, stem, hstem, -⟩ := ha
    obtain ⟨hne, rfl⟩ := stem?_eq_some_iff.1 hstem
    exact ⟨stem, hne, hname⟩
  · rintro ⟨stem, hne, hname⟩
    have hstem := stem?_eq_some_iff.2 ⟨hne, rfl⟩
    rw [ofPath?, hname, Option.bind_eq_bind, Option.bind_some, hstem]
    rfl

/-- A path gives away its parent and, if the suffix of its name is known, the stem. -/
theorem eq_of_components {p p' dir dir' : Path} {stem stem' suffix : String}
    (hdir : p.parent? = some dir) (hname : p.fileName? = some (Utf8.encode (stem ++ suffix)))
    (hdir' : p'.parent? = some dir') (hname' : p'.fileName? = some (Utf8.encode (stem' ++ suffix)))
    (h : p.components = p'.components) : dir.components = dir'.components ∧ stem = stem' := by
  rw [Path.components_of_parent? hname hdir, Path.components_of_parent? hname' hdir'] at h
  obtain ⟨hcomponents, hlast⟩ := List.append_inj' h rfl
  exact ⟨hcomponents, encode_append_inj (by simpa using hlast)⟩

/-- The three paths of an artifact have one parent, and their names have one stem. -/
structure NamedIn (a : Artifact) (dir : Path) (stem : String) : Prop where
  text_parent : a.text.parent? = some dir
  text_name : a.text.fileName? = some (Utf8.encode (stem ++ textSuffix))
  reference_parent : a.reference.parent? = some dir
  reference_name : a.reference.fileName? = some (Utf8.encode (stem ++ referenceSuffix))
  binary_parent : a.binary.parent? = some dir
  binary_name : a.binary.fileName? = some (Utf8.encode (stem ++ binarySuffix))

/-- The paths that are derived from that of a text have its parent and its stem. -/
theorem exists_namedIn {p : Path} {a : Artifact} (h : ofPath? p = some a) :
    ∃ dir stem, stem ≠ "" ∧ a.NamedIn dir stem := by
  obtain ⟨stem, hne, hname⟩ := (isSome_ofPath?_iff p).1 (by rw [h]; rfl)
  obtain ⟨stem', hstem, rfl⟩ := ofPath?_eq_some hname h
  obtain rfl := encode_append_inj hstem
  obtain ⟨-, hisName⟩ :=
    (Path.getLast?_components_iff p _).1 (Path.fileName?_eq_some_iff.1 hname)
  obtain ⟨hreference, hbinary⟩ := isName_binaries hisName
  obtain ⟨pieces, -, hparent, -⟩ := Path.exists_tidy hname
  exact ⟨_, stem, hne,
    { text_parent := hparent
      text_name := hname
      reference_parent := (Path.parent?_withFileName hname hreference).trans hparent
      reference_name := Path.fileName?_withFileName hname hreference
      binary_parent := (Path.parent?_withFileName hname hbinary).trans hparent
      binary_name := Path.fileName?_withFileName hname hbinary }⟩

namespace NamedIn

variable {a b : Artifact} {dir dir' : Path} {stem stem' : String}

/-- The three names of an artifact are different. -/
theorem nodup (h : a.NamedIn dir stem) :
    [a.text.fileName?, a.reference.fileName?, a.binary.fileName?].Nodup := by
  have hbinary : Utf8.encode (stem ++ referenceSuffix) ≠ Utf8.encode (stem ++ binarySuffix) :=
    fun he => ne_append_outSuffix stem (reference_eq_binary_iff.1 he)
  rw [h.text_name, h.reference_name, h.binary_name]
  simp [text_ne_reference, text_ne_binary, hbinary]

/-- Artifacts with the same reference have the same parent and the same stem. -/
theorem of_components_reference (h : a.NamedIn dir stem) (h' : b.NamedIn dir' stem')
    (he : a.reference.components = b.reference.components) :
    dir.components = dir'.components ∧ stem = stem' :=
  eq_of_components h.reference_parent h.reference_name h'.reference_parent h'.reference_name he

/-- Artifacts with the same binary have the same parent and the same stem. -/
theorem of_components_binary (h : a.NamedIn dir stem) (h' : b.NamedIn dir' stem')
    (he : a.binary.components = b.binary.components) :
    dir.components = dir'.components ∧ stem = stem' :=
  eq_of_components h.binary_parent h.binary_name h'.binary_parent h'.binary_name he

end NamedIn

/-- What the path of a text says about an artifact. A path is that of a text just if its last
component is a name that consists of a stem, which is not empty, and `.out.ll`; a path has a name
for its last component just if it ends in it but for slashes and points. The text of the artifact is
then the path as it is written, and the two binaries have the same parent and the same stem. The
three names are different. The reference says what the parent and the stem are, and artifacts whose
texts have different names share neither a reference nor a binary, not even if these are written in
different ways. -/
theorem ofPath?_named (p : Path) :
    ((ofPath? p).isSome = true ↔
      ∃ stem, stem ≠ "" ∧
        p.components.getLast? = some (.name (Utf8.encode (stem ++ ".out.ll")))) ∧
    (∀ name, p.components.getLast? = some (.name name) ↔ p.EndsIn name ∧ IsName name) ∧
    ∀ a, ofPath? p = some a → ∃ dir stem, stem ≠ "" ∧ a.text = p ∧ a.NamedIn dir stem ∧
      [a.text.fileName?, a.reference.fileName?, a.binary.fileName?].Nodup ∧
      ∀ q b dir' stem', ofPath? q = some b → b.NamedIn dir' stem' →
        (a.reference = b.reference → dir = dir' ∧ stem = stem') ∧
        (a.reference.components = b.reference.components →
          dir.components = dir'.components ∧ stem = stem') ∧
        (p.fileName? ≠ q.fileName? →
          a.reference.components ≠ b.reference.components ∧
          a.binary.components ≠ b.binary.components) := by
  refine ⟨?_, Path.getLast?_components_iff p, fun a ha => ?_⟩
  · rw [isSome_ofPath?_iff]
    simp only [Path.fileName?_eq_some_iff, textSuffix]
  obtain ⟨dir, stem, hne, hnamed⟩ := exists_namedIn ha
  refine ⟨dir, stem, hne, text_of_ofPath? ha, hnamed, hnamed.nodup,
    fun q b dir' stem' hb hnamed' => ⟨fun he => ?_, hnamed.of_components_reference hnamed',
      fun hdiffer => ?_⟩⟩
  · have hdir : some dir = some dir' := by
      rw [← hnamed.reference_parent, he, hnamed'.reference_parent]
    have hcomponents := congrArg Path.components he
    exact ⟨Option.some.inj hdir, (hnamed.of_components_reference hnamed' hcomponents).2⟩
  · have hstem : stem ≠ stem' := by
      rintro rfl
      refine hdiffer ?_
      rw [← text_of_ofPath? ha, ← text_of_ofPath? hb, hnamed.text_name, hnamed'.text_name]
    exact ⟨fun he => hstem (hnamed.of_components_reference hnamed' he).2,
      fun he => hstem (hnamed.of_components_binary hnamed' he).2⟩

/-- Two texts of one directory, of which one is written with slashes and points. The reference of
the first is the binary of the second. -/
theorem ofPath?_named_sample :
    ∃ a b dir stem, ofPath? (.ofText "/c//./a.out.out.ll/./") = some a ∧
      ofPath? (.ofText "/c/a.out.ll") = some b ∧ a.reference = b.binary ∧
      a.NamedIn dir stem ∧ stem ≠ "" ∧ a.reference.components ≠ b.reference.components ∧
      a.binary.components ≠ b.binary.components := by
  let p : Path := .ofText "/c//./a.out.out.ll/./"
  let q : Path := .ofText "/c/a.out.ll"
  have ha : ofPath? p = some ⟨.ofText "/c/a.out.bc", p, .ofText "/c/a.out.out.bc"⟩ := by
    decide +kernel
  have hb : ofPath? q = some ⟨.ofText "/c/a.bc", q, .ofText "/c/a.out.bc"⟩ := by decide +kernel
  have hdiffer : p.fileName? ≠ q.fileName? := by decide +kernel
  obtain ⟨dir, stem, hne, -, hnamed, -, hothers⟩ := (ofPath?_named p).2.2 _ ha
  obtain ⟨dir', stem', -, hnamed'⟩ := exists_namedIn hb
  obtain ⟨-, -, hshare⟩ := hothers q _ dir' stem' hb hnamed'
  exact ⟨_, _, dir, stem, ha, hb, rfl, hnamed, hne, hshare hdiffer⟩

end RoundTrip.Artifact

import RoundTrip.Generation
import RoundTrip.Proofs.Resolution.Procedure

/-!
# What a resolver misses

A resolver asks one program with the plain name of a tool, the first on its list of directories. It
fails just if no directory holds a program whose name shows an accepted version, and the plain tool
that it asks, if there is one, mentions none (`resolve_error_iff`). So it may say that no installed
tool has an accepted version although one has: a plain tool whose banner mentions an accepted
version is missed where another one stands in front of it (`resolve_misses_plain`).
-/

namespace RoundTrip

namespace Resolver

variable {μ : Type} {r : Resolver} {tool : String} {versions : List String}

/-- No directory holds a program whose name shows one of some versions. -/
def NoneNamed (r : Resolver) (files : FileTree) (tool : String) (versions : List String) : Prop :=
  ∀ version ∈ versions, ∀ name ∈ VersionList.namesOf tool version, ∀ dir ∈ r.dirs,
    files.isExecutable (dir.join (.ofText name)) = false

/-- The banner in an answer, if there is one, mentions none of some versions. -/
def NoneMentioned (answer : Answer) (versions : List String) : Prop :=
  ∀ banner, answer.banner? = some banner → ∀ version ∈ versions,
    VersionList.mentions banner version = false

/-- No directory holds a program whose name shows one of some versions just if the procedure finds
none under either of the two names of each. -/
theorem noneNamed_iff {files : FileTree} : r.NoneNamed files tool versions ↔
    ∀ version ∈ versions, r.firstHeld files (tool ++ "-" ++ version) = none ∧
      r.firstHeld files (tool ++ String.ofList (version.toList.filter (· != '.'))) = none := by
  refine forall₂_congr fun version _ => ?_
  simp [VersionList.namesOf, firstHeld_eq_none_iff]

/-- The procedure comes to no program just if no name shows a version and the plain tool, if there
is one, has no banner that mentions one. -/
theorem findSome?_programFor_eq_none_iff {before behind : FileTree} {banner? : Option String} :
    versions.findSome? (r.programFor before behind tool banner?) = none ↔
      r.NoneNamed behind tool versions ∧ ∀ program, r.firstHeld before tool = some program →
        ∀ version ∈ versions, banner?.any (VersionList.mentions · version) = false := by
  rw [List.findSome?_eq_none_iff, noneNamed_iff]
  simp only [programFor, Option.or_eq_none_iff]
  constructor
  · intro h
    refine ⟨fun version hversion => ⟨(h version hversion).1, (h version hversion).2.1⟩,
      fun program hprogram version hversion => ?_⟩
    have hplain := (h version hversion).2.2
    rw [hprogram] at hplain
    simpa using hplain
  · rintro ⟨hnamed, hplain⟩ version hversion
    refine ⟨(hnamed version hversion).1, (hnamed version hversion).2, ?_⟩
    cases hprogram : r.firstHeld before tool with
    | none => simp
    | some program => simp [hplain program hprogram version hversion]

/-- When a resolver fails. It says that no installed tool has an accepted version just if no
directory holds a program whose name shows one, and the first program with the plain name, if there
is one, does not answer with a banner that mentions one. All others with the plain name count for
nothing: where it fails although one of them would have mentioned an accepted version, the program
that was asked is another one. -/
theorem resolve_error_iff (r : Resolver) (host : Host μ) (tool : String) (accepted : VersionList)
    (w : World μ) :
    let out := (r.resolve host tool accepted).run w
    let answer (program : Path) := ((host.query program r.queryLimit).run w).value
    (∀ f, out.value = .error f ↔ f = .toolNotFound tool accepted.versions ∧
      r.NoneNamed out.state.files tool accepted.versions ∧
      ∀ program, r.firstHeld w.files tool = some program →
        NoneMentioned (answer program) accepted.versions) ∧
    ∀ f, out.value = .error f → ∀ dir ∈ r.dirs,
      w.files.isExecutable (dir.join (.ofText tool)) = true →
      ¬ NoneMentioned (answer (dir.join (.ofText tool))) accepted.versions →
      ∃ program, r.firstHeld w.files tool = some program ∧ program ≠ dir.join (.ofText tool) := by
  obtain ⟨hvalue, hstate⟩ := resolve_run r host tool accepted w
  have hmentioned : ∀ program, r.firstHeld w.files tool = some program →
      ((∀ version ∈ accepted.versions,
          (r.heard? host tool w).any (VersionList.mentions · version) = false) ↔
        NoneMentioned ((host.query program r.queryLimit).run w).value accepted.versions) := by
    intro program hprogram
    rw [heard?, asked?, hprogram, Option.map_some, Option.bind_some, NoneMentioned]
    cases ((host.query program r.queryLimit).run w).value.banner? <;> simp
  have hfails : ∀ f, ((r.resolve host tool accepted).run w).value = .error f ↔
      f = .toolNotFound tool accepted.versions ∧
      r.NoneNamed (r.worldBehind host tool w).files tool accepted.versions ∧
      ∀ program, r.firstHeld w.files tool = some program →
        NoneMentioned ((host.query program r.queryLimit).run w).value accepted.versions := by
    intro f
    rw [← forall₂_congr hmentioned, ← findSome?_programFor_eq_none_iff, hvalue, plainly]
    split
    · next hfound => simp [hfound]
    · next hnone => simp [hnone, eq_comm]
  dsimp only
  rw [hstate]
  refine ⟨hfails, fun f hf dir hdir hexec hmentions => ?_⟩
  cases hprogram : r.firstHeld w.files tool with
  | none => simp [firstHeld_eq_none_iff.1 hprogram dir hdir] at hexec
  | some program =>
    refine ⟨program, rfl, ?_⟩
    rintro rfl
    exact hmentions (((hfails f).1 hf).2.2 _ hprogram)

/-- A world with two directories, each of which holds an interpreter with the plain name. -/
def twoInterpreters : World Unit where
  files := { root := .dir [
    (Utf8.encode "old", .dir [(Utf8.encode "lli", .file [] 0o755)]),
    (Utf8.encode "new", .dir [(Utf8.encode "lli", .file [] 0o755)])] }
  memory := ()

/-- A host on which the interpreter in one directory has another version than that in the other. -/
def twoVersions : Host Unit where
  run _ _ _ := pure (.exited 0)
  query program _ := pure (.printed (Utf8.encode
    (if program = .ofText "/new/lli" then "LLVM version 3.8.0" else "LLVM version 2.9")) [])

/-- A resolver that looks into both. -/
def oldFirst : Resolver := ⟨[.ofText "/old", .ofText "/new"], 1000⟩

/-- It finds none, although the second interpreter has an accepted version. -/
theorem resolve_oldFirst :
    ((oldFirst.resolve twoVersions interpreterName Generation.llvm38.versions).run
      twoInterpreters).value = .error (.toolNotFound "lli" ["3.8", "3.9"]) := by
  rfl

/-- A resolver may fail although a directory holds the plain tool in an accepted version. -/
theorem resolve_misses_plain :
    ¬ ∀ (r : Resolver) (host : Host Unit) (tool : String) (accepted : VersionList) (w : World Unit)
      (f : Failure), ((r.resolve host tool accepted).run w).value = .error f →
      r.NoneNamed w.files tool accepted.versions ∧
      ∀ dir ∈ r.dirs, w.files.isExecutable (dir.join (.ofText tool)) = true →
        NoneMentioned ((host.query (dir.join (.ofText tool)) r.queryLimit).run w).value
          accepted.versions := by
  intro h
  obtain ⟨-, hplain⟩ := h _ _ _ _ _ _ resolve_oldFirst
  have hnone := hplain (.ofText "/new") (by simp [oldFirst]) (by decide +kernel)
  have hmentions : VersionList.mentions "LLVM version 3.8.0" "3.8" = true := by decide +kernel
  cases (hnone _ (by decide +kernel) "3.8" (by decide +kernel)).symm.trans hmentions

/-- The first interpreter was asked for its version, and the second was not. -/
theorem resolve_error_iff_sample :
    oldFirst.NoneNamed twoInterpreters.files interpreterName ["3.8", "3.9"] ∧
    ∃ program, oldFirst.firstHeld twoInterpreters.files interpreterName = some program ∧
      program ≠ .ofText "/new/lli" := by
  obtain ⟨hfails, hmissed⟩ := resolve_error_iff oldFirst twoVersions interpreterName
    Generation.llvm38.versions twoInterpreters
  obtain ⟨-, hnamed, -⟩ := (hfails _).1 resolve_oldFirst
  have hmentions : VersionList.mentions "LLVM version 3.8.0" "3.8" = true := by decide +kernel
  refine ⟨hnamed, hmissed _ resolve_oldFirst (.ofText "/new") (by simp [oldFirst])
    (by decide +kernel) fun hnone => ?_⟩
  cases (hnone _ (by decide +kernel) "3.8" (by decide +kernel)).symm.trans hmentions

end Resolver

end RoundTrip

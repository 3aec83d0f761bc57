import RoundTrip.Resolution

/-!
# The procedure that a resolver follows

A resolver asks a tool for its version at most once, before it tries any version, and keeps of the
banner the first accepted version that it mentions. The plain procedure (`Resolver.plainly`) looks
at the banner anew for every version that it tries. Both come to the same program: where the banner
mentions a version that is not the one kept, the one kept stands in front of it, and the program was
taken for that one already (`Resolver.findSome?_kept_eq`).

The plain tool is looked for before it is asked, and the names that show a version behind that, so
the procedure has two file trees; they are the same if asking a tool changes no file.
-/

namespace RoundTrip

/-- The banner in the answer of a tool that is asked for its version. -/
def Answer.banner? : Answer → Option String
  | .failed | .overran => none
  | .printed out err => some (Utf8.lossy out ++ Utf8.lossy err)

namespace Resolver

/-! ## The procedure -/

/-- The program of a name in the first directory that holds one. -/
def firstHeld (r : Resolver) (files : FileTree) (name : String) : Option Path :=
  r.dirs.findSome? fun dir =>
    let path := dir.join (.ofText name)
    if files.isExecutable path then some path else none

/-- The program that the procedure takes for a version: one whose name shows the version behind a
hyphen, else one whose name shows it without its points, else the plain tool if its banner mentions
the version. -/
def programFor (r : Resolver) (before behind : FileTree) (tool : String) (banner? : Option String)
    (version : String) : Option Path :=
  (r.firstHeld behind (tool ++ "-" ++ version)).or
    ((r.firstHeld behind (tool ++ String.ofList (version.toList.filter (· != '.')))).or
      (if banner?.any (VersionList.mentions · version) then r.firstHeld before tool else none))

/-- The procedure: the program for the first version that has one. -/
def plainly (r : Resolver) (before behind : FileTree) (tool : String) (banner? : Option String)
    (versions : List String) : Attempt Path :=
  match versions.findSome? (r.programFor before behind tool banner?) with
  | some path => .ok path
  | none => .error (.toolNotFound tool versions)

/-! ## Programs of a name -/

variable {r : Resolver} {files : FileTree} {name : String} {path : Path}

/-- What can be executed is a file. -/
theorem isFile_of_isExecutable (h : files.isExecutable path = true) :
    files.isFile path = true := by
  obtain ⟨node, hnode, hexec⟩ := (Option.any_eq_true _ _).1 h
  refine (Option.any_eq_true _ _).2 ⟨node, hnode, ?_⟩
  cases node with
  | file => rfl
  | link | null | dir => cases hexec

/-- The first program of a name is that in the first directory that holds one. -/
theorem find?_eq (r : Resolver) (files : FileTree) (name : String) :
    r.find? files name = r.firstHeld files name := by
  rw [find?, firstHeld]
  induction r.dirs with
  | nil => rfl
  | cons dir dirs ih =>
    rw [List.map_cons, List.find?_cons, List.findSome?_cons, ih]
    cases hexec : files.isExecutable (dir.join (.ofText name)) <;> simp [hexec]

/-- A program that is held lies in one of the directories. -/
theorem exists_dir_of_firstHeld (h : r.firstHeld files name = some path) :
    ∃ dir ∈ r.dirs, path = dir.join (.ofText name) ∧
      files.isFile path = true ∧ files.isExecutable path = true := by
  obtain ⟨dir, hdir, hpath⟩ := List.exists_of_findSome?_eq_some h
  dsimp only at hpath
  split at hpath
  · next hexec =>
    obtain rfl := Option.some.inj hpath
    exact ⟨dir, hdir, rfl, isFile_of_isExecutable hexec, hexec⟩
  · cases hpath

/-- No program of a name is held just if no directory has one. -/
theorem firstHeld_eq_none_iff : r.firstHeld files name = none ↔
    ∀ dir ∈ r.dirs, files.isExecutable (dir.join (.ofText name)) = false := by
  simp [firstHeld, List.findSome?_eq_none_iff]

/-! ## Choosing a program -/

/-- A program whose name shows a version is looked for under its two names in order. -/
theorem findSome?_namesOf (r : Resolver) (files : FileTree) (tool version : String) :
    (VersionList.namesOf tool version).findSome? (r.find? files) =
      (r.firstHeld files (tool ++ "-" ++ version)).or
        (r.firstHeld files (tool ++ String.ofList (version.toList.filter (· != '.')))) := by
  simp only [VersionList.namesOf, List.findSome?_cons, List.findSome?_nil, find?_eq]
  cases r.firstHeld files (tool ++ "-" ++ version) <;>
    cases r.firstHeld files (tool ++ String.ofList (version.toList.filter (· != '.'))) <;> rfl

/-- What a resolver takes for a version: a program whose name shows it, else the plain tool if the
version is the one kept of its banner. -/
def keptFor (r : Resolver) (files : FileTree) (tool : String) (kept : Option (Path × String))
    (version : String) : Option Path :=
  ((VersionList.namesOf tool version).findSome? (r.find? files)).or
    ((kept.filter (·.2 = version)).map Prod.fst)

/-- A resolver chooses the program for the first version for which it takes one. -/
theorem choose_eq (r : Resolver) (files : FileTree) (tool : String) (kept : Option (Path × String))
    (versions : List String) :
    (r.choose files tool kept versions).map Prod.fst =
      versions.findSome? (r.keptFor files tool kept) := by
  induction versions with
  | nil => rfl
  | cons version rest ih =>
    rw [List.findSome?_cons, keptFor]
    cases hname : (VersionList.namesOf tool version).findSome? (r.find? files) with
    | some path => simp [choose, hname]
    | none =>
      cases kept with
      | none => simpa [choose, hname] using ih
      | some kept =>
        obtain ⟨path, mentioned⟩ := kept
        by_cases h : mentioned = version
        · simp [choose, hname, h, Option.filter]
        · simpa [choose, hname, h, Option.filter] using ih

/-- Keeping the first version that a banner mentions loses no program and lets no version overtake
another. -/
theorem findSome?_kept_eq {r : Resolver} {before : FileTree} {tool : String} {program : Path}
    (hprogram : r.firstHeld before tool = some program) (behind : FileTree) (banner : String)
    (versions : List String) :
    versions.findSome? (r.keptFor behind tool
        ((versions.find? (VersionList.mentions banner)).map fun version => (program, version))) =
      versions.findSome? (r.programFor before behind tool (some banner)) := by
  induction versions with
  | nil => rfl
  | cons version rest ih =>
    rw [List.find?_cons]
    cases hmentions : VersionList.mentions banner version with
    | true =>
      -- the version is the one kept, so the plain tool is taken for it if no name shows it
      have hkept : r.keptFor behind tool (some (program, version)) version =
          r.programFor before behind tool (some banner) version := by
        simp [keptFor, programFor, findSome?_namesOf, hmentions, hprogram, Option.filter]
      have hsome : (r.programFor before behind tool (some banner) version).isSome := by
        simp [programFor, hmentions, hprogram]
      obtain ⟨path, hpath⟩ := Option.isSome_iff_exists.1 hsome
      simp only [Option.map_some, List.findSome?_cons, hkept, hpath]
    | false =>
      -- the version kept is another one, since the banner mentions it
      have hkept : r.keptFor behind tool ((rest.find? (VersionList.mentions banner)).map
          fun version => (program, version)) version =
          r.programFor before behind tool (some banner) version := by
        have hother : ∀ kept, rest.find? (VersionList.mentions banner) = some kept →
            kept ≠ version := by
          rintro kept hkept rfl
          cases (List.find?_some hkept).symm.trans hmentions
        cases hfind : rest.find? (VersionList.mentions banner) with
        | none => simp [keptFor, programFor, findSome?_namesOf, hmentions]
        | some kept =>
          simp [keptFor, programFor, findSome?_namesOf, hmentions, Option.filter, hother kept hfind]
      rw [List.findSome?_cons, List.findSome?_cons, hkept, ih]

/-! ## Resolving a tool -/

variable {μ : Type}

/-- What comes of asking the plain tool for its version, if there is one. -/
def asked? (r : Resolver) (host : Host μ) (tool : String) (w : World μ) :
    Option (Outcome Remark (World μ) Answer) :=
  (r.firstHeld w.files tool).map fun program => (host.query program r.queryLimit).run w

/-- The banner of the plain tool, if there is one and it prints one in time. -/
def heard? (r : Resolver) (host : Host μ) (tool : String) (w : World μ) : Option String :=
  (r.asked? host tool w).bind (·.value.banner?)

/-- The world behind the question: as it was if there is no plain tool. -/
def worldBehind (r : Resolver) (host : Host μ) (tool : String) (w : World μ) : World μ :=
  ((r.asked? host tool w).map (·.state)).getD w

/-- A tool is asked for its version once, and what else is done leaves the world alone. -/
theorem banner_run (r : Resolver) (host : Host μ) (program : Path) (w : World μ) :
    ((r.banner host program).run w).value =
        ((host.query program r.queryLimit).run w).value.banner? ∧
      ((r.banner host program).run w).state = ((host.query program r.queryLimit).run w).state := by
  rw [banner]
  simp only [Act.run_bind]
  cases ((host.query program r.queryLimit).run w).value <;> exact ⟨rfl, rfl⟩

/-- What is kept of the plain tool, if there is one and it is heard. -/
theorem plain_run (r : Resolver) (host : Host μ) (tool : String) (accepted : VersionList)
    (w : World μ) :
    ((r.plain host tool accepted).run w).value =
        (r.firstHeld w.files tool).bind (fun program =>
          (r.heard? host tool w).bind fun banner =>
            (accepted.mentionedIn banner).map fun version => (program, version)) ∧
      ((r.plain host tool accepted).run w).state = r.worldBehind host tool w := by
  simp only [plain, Act.run_bind, Act.run_see, find?_eq, heard?, worldBehind, asked?]
  cases hprogram : r.firstHeld w.files tool with
  | none => exact ⟨rfl, rfl⟩
  | some program =>
    obtain ⟨hvalue, hstate⟩ := banner_run r host program w
    simp only [Act.run_bind, hvalue, hstate, Option.map_some, Option.bind_some, Option.getD_some]
    cases ((host.query program r.queryLimit).run w).value.banner? <;> exact ⟨rfl, rfl⟩

/-- Without a banner no version is taken for the plain tool. -/
theorem programFor_none (r : Resolver) (before behind : FileTree) (tool : String) :
    r.programFor before behind tool none = r.keptFor behind tool none := by
  funext version
  simp [programFor, keptFor, findSome?_namesOf]

/-- Without a plain tool its banner makes no difference. -/
theorem programFor_of_firstHeld_eq_none {r : Resolver} {before : FileTree} {tool : String}
    (h : r.firstHeld before tool = none) (behind : FileTree) (banner? : Option String) :
    r.programFor before behind tool banner? = r.programFor before behind tool none := by
  funext version
  simp [programFor, h]

/-- What a resolver chooses behind its question is what the procedure comes to. -/
theorem choose_plain (r : Resolver) (host : Host μ) (tool : String) (accepted : VersionList)
    (w : World μ) (behind : FileTree) :
    (r.choose behind tool ((r.plain host tool accepted).run w).value accepted.versions).map
        Prod.fst =
      accepted.versions.findSome?
        (r.programFor w.files behind tool (r.heard? host tool w)) := by
  rw [choose_eq, (plain_run r host tool accepted w).1]
  cases hprogram : r.firstHeld w.files tool with
  | none => rw [Option.bind_none, programFor_of_firstHeld_eq_none hprogram, programFor_none]
  | some program =>
    cases r.heard? host tool w with
    | none => rw [programFor_none]; rfl
    | some banner => exact findSome?_kept_eq hprogram behind banner accepted.versions

/-- The names under which the procedure looks for a program. -/
def namesFor (tool : String) (versions : List String) : List String :=
  tool :: versions.flatMap (VersionList.namesOf tool)

/-- A program that is taken for a version lies in one of the directories, under one of the names. -/
theorem exists_dir_of_programFor {r : Resolver} {before behind : FileTree} {tool : String}
    {banner? : Option String} {versions : List String} {version : String} {path : Path}
    (hversion : version ∈ versions)
    (h : r.programFor before behind tool banner? version = some path) :
    ∃ dir ∈ r.dirs, ∃ name ∈ namesFor tool versions, path = dir.join (.ofText name) ∧
      ∃ files, (files = behind ∨ name = tool ∧ files = before) ∧
        files.isFile path = true ∧ files.isExecutable path = true := by
  have hnames : ∀ name ∈ VersionList.namesOf tool version, name ∈ namesFor tool versions :=
    fun name hname => List.mem_cons_of_mem _ (List.mem_flatMap.2 ⟨version, hversion, hname⟩)
  rw [programFor, Option.or_eq_some_iff, Option.or_eq_some_iff] at h
  obtain hhyphen | ⟨-, hjoined | ⟨-, hplain⟩⟩ := h
  · obtain ⟨dir, hdir, hpath, hexec⟩ := exists_dir_of_firstHeld hhyphen
    exact ⟨dir, hdir, _, hnames _ (by simp [VersionList.namesOf]), hpath, behind, .inl rfl, hexec⟩
  · obtain ⟨dir, hdir, hpath, hexec⟩ := exists_dir_of_firstHeld hjoined
    exact ⟨dir, hdir, _, hnames _ (by simp [VersionList.namesOf]), hpath, behind, .inl rfl, hexec⟩
  · split at hplain
    · obtain ⟨dir, hdir, hpath, hexec⟩ := exists_dir_of_firstHeld hplain
      exact ⟨dir, hdir, tool, List.mem_cons_self .., hpath, before, .inr ⟨rfl, rfl⟩, hexec⟩
    · cases hplain

/-- What a resolver does: it asks the plain tool, if there is one, for its version once, and behind
that its choice changes nothing. -/
theorem resolve_run (r : Resolver) (host : Host μ) (tool : String) (accepted : VersionList)
    (w : World μ) :
    ((r.resolve host tool accepted).run w).value =
        r.plainly w.files (r.worldBehind host tool w).files tool (r.heard? host tool w)
          accepted.versions ∧
      ((r.resolve host tool accepted).run w).state = r.worldBehind host tool w := by
  have hchoice := choose_plain r host tool accepted w (r.worldBehind host tool w).files
  have hstate := (plain_run r host tool accepted w).2
  simp only [resolve, Act.run_bind, Act.run_see, hstate, plainly, ← hchoice]
  cases r.choose (r.worldBehind host tool w).files tool
      ((r.plain host tool accepted).run w).value accepted.versions with
  | none => exact ⟨rfl, rfl⟩
  | some choice => exact ⟨rfl, rfl⟩

/-- A resolver comes to what the plain procedure comes to, for all directories, all files in them
and all answers of the plain tool, and it asks for no more than this one answer: the world behind it
is the one behind the question, or as it was if there is no plain tool to ask. The program that it
comes to is a file that can be executed, and it lies in one of the directories, under the name of
the tool or under one that shows an accepted version. -/
theorem resolve_eq_plainly (r : Resolver) (host : Host μ) (tool : String) (accepted : VersionList)
    (w : World μ) :
    let out := (r.resolve host tool accepted).run w
    out.value = r.plainly w.files out.state.files tool (r.heard? host tool w) accepted.versions ∧
    out.state = (match r.firstHeld w.files tool with
      | none => w
      | some program => ((host.query program r.queryLimit).run w).state) ∧
    ∀ path, out.value = .ok path →
      ∃ dir ∈ r.dirs, ∃ name ∈ namesFor tool accepted.versions,
        path = dir.join (.ofText name) ∧
        ∃ files, (files = out.state.files ∨ name = tool ∧ files = w.files) ∧
          files.isFile path = true ∧ files.isExecutable path = true := by
  obtain ⟨hvalue, hstate⟩ := resolve_run r host tool accepted w
  dsimp only
  rw [hvalue, hstate]
  refine ⟨rfl, ?_, fun path hpath => ?_⟩
  · rw [worldBehind, asked?]
    cases r.firstHeld w.files tool <;> rfl
  · rw [plainly] at hpath
    split at hpath
    · next found hfound =>
      obtain rfl := Except.ok.inj hpath
      obtain ⟨version, hversion, hprogram⟩ := List.exists_of_findSome?_eq_some hfound
      exact exists_dir_of_programFor hversion hprogram
    · cases hpath

/-- A world with a plain interpreter in one directory and one whose name shows a version in
another. -/
def sampleWorld : World Nat where
  files := { root := .dir [
    (Utf8.encode "a", .dir [(Utf8.encode "lli", .file [] 0o755)]),
    (Utf8.encode "b", .dir [(Utf8.encode "lli39", .file [] 0o755)])] }
  memory := 0

/-- A host that counts its questions, and whose tools name two versions. -/
def sampleHost : Host Nat where
  run _ _ _ := pure (.exited 0)
  query _ _ := do
    Act.change fun w => { w with memory := w.memory + 1 }
    pure (.printed (Utf8.encode "version 3.8, version 3.9") [])

/-- The plain interpreter is asked, and the other one is taken, whose name shows the version that is
preferred. -/
theorem resolve_eq_plainly_sample :
    let r : Resolver := ⟨[.ofText "/a", .ofText "/b"], 1000⟩
    let out := (r.resolve sampleHost "lli" ⟨["3.9", "3.8", "3.9"]⟩).run sampleWorld
    out.value = .ok (.ofText "/b/lli39") ∧ out.state.memory = 1 ∧
      ∃ dir ∈ r.dirs, ∃ name ∈ namesFor "lli" ["3.9", "3.8", "3.9"],
        Path.ofText "/b/lli39" = dir.join (.ofText name) := by
  intro r out
  obtain ⟨-, hstate, hpath⟩ := resolve_eq_plainly r sampleHost "lli" ⟨["3.9", "3.8", "3.9"]⟩
    sampleWorld
  have hvalue : out.value = .ok (.ofText "/b/lli39") := rfl
  obtain ⟨dir, hdir, name, hname, hjoin, -⟩ := hpath _ hvalue
  exact ⟨hvalue, congrArg (·.memory) hstate, dir, hdir, name, hname, hjoin⟩

end Resolver

end RoundTrip

import RoundTrip.CommandLine.Program
import RoundTrip.Proofs.CommandLine.Arguments
import RoundTrip.Proofs.CommandLine.Execution

/-!
# What the exit status says

The program ends with status 0 or 1 whenever there is something to run, and `run_status` says with
which: 0 just if the request comes to its suites, no assembler fails, all suites pass, and the
report that is asked for can be written. The report says the same as the status, and it is written
whether the suites pass or not. That a run came to its end with nothing in it but texts is not
enough for that, since the file must be one that can be written (`report_unwritten`).
-/

namespace RoundTrip.CommandLine

variable {μ : Type}

/-- The status of a request is 0 just if it ended well, and 1 if it did not. -/
theorem status_eq_zero_iff {done : Except Problem Unit} : status done = 0 ↔ done = .ok () := by
  cases done <;> simp [status]

/-- What a run of the program leaves behind that has a request to carry out. -/
theorem run_of_request {args : List Bytes} {around : Surroundings μ} {w : World μ} {r : Request}
    (hr : readRequest args (around.var? "IRBUILDER_CACHE_DIR") = .ok r) :
    (run args around w).1.status = status ((r.execute around).run { world := w }).value ∧
      (run args around w).2 = ((r.execute around).run { world := w }).state.world := by
  rw [run, hr]
  exact ⟨rfl, rfl⟩

/-- What the program leaves behind when it is asked to run suites or to verify a directory. Its
status is 0 or 1. It is 0 just if the request has settings that can work and a plan, tools are found
for it, no call of the assembler fails, every suite of the plan has artifacts, all of which pass,
and the report can be written if one is asked for.

If there are no settings or no plan, nothing has happened: neither the files nor the memory of any
host are changed. Otherwise the request comes to its suites in one way, if at all. Then a call of
the assembler fails only where its command cannot be started or its time is over; a directory that
is to be verified is its own suite, wherever the cache root is; and if nobody asks for the run to be
cancelled and no assembler fails, every suite is run and every artifact that is found is examined.
When the run comes to its end, the report is saved. If it can be written, its file holds its text,
which says that the run is a success just if the status is 0. If not, the status is 1, and nothing
but directories is made. -/
theorem run_status {args : List Bytes} {around : Surroundings μ} {r : Request} (w : World μ)
    (hr : readRequest args (around.var? "IRBUILDER_CACHE_DIR") = .ok r)
    (htask : ∀ g, r.task ≠ .list g) :
    let out := (r.execute around).run { world := w }
    let left := run args around w
    (left.1.status = 0 ∨ left.1.status = 1) ∧
    (left.1.status = 0 ↔ ∃ x : Outset μ, x.Reached r around w ∧
      (∀ call ∈ x.calls around, call.2.failure? = none) ∧
      Run.AllPass (x.tools around) x.settings x.plan.suites x.site ∧ x.Reports r around) ∧
    ((¬ ∃ s p, r.options.Configures w.files s ∧ r.task.Asks s w.files p) →
      out.events = [] ∧ left.2 = w) ∧
    ∀ x : Outset μ, x.Reached r around w →
      (∀ y, y.Reached r around w → y = x) ∧
      (∀ call ∈ x.calls around, ∀ f, call.2 = .error f → f.isOfCommand = true) ∧
      (∀ dir g, r.task = .verify dir g → ∀ row ∈ x.plan.suites,
        x.settings.suiteDir row.2.cacheDir = w.files.here.join dir) ∧
      (out.events.any Event.isCancel = false →
        (∀ call ∈ x.calls around, call.2.failure? = none) → ∃ sessions s',
          Run.Sessions (x.tools around) x.settings x.site sessions s' ∧
          sessions.map Session.request = x.plan.suites ∧
          ∀ y ∈ sessions, y.visits.map (·.artifact) = y.found x.settings) ∧
      ∀ result path, (x.batch around).value = .ok result → r.options.reportTo = some path →
        let report := x.report around result
        let files := (x.batch around).state.world.files
        left.2.files = (report.save path files).1 ∧
        (report.Writable path files → left.2.files.node path = .ok .null ∨
          ∃ text j, left.2.files.readText path = .ok text ∧ report.pretty? = some text ∧
            Json.ofText? text = some j ∧ Report.readSuccess? j = some (left.1.status == 0)) ∧
        (¬ report.Writable path files → left.1.status = 1 ∧ files.Grown left.2.files) := by
  intro out left
  obtain ⟨hstatus, hworld⟩ := run_of_request (w := w) hr
  have hzero : left.1.status = 0 ↔ out.value = .ok () := by
    rw [show left.1.status = status out.value from hstatus, status_eq_zero_iff]
  have hbound : left.1.status = 0 ∨ left.1.status = 1 := by
    rw [show left.1.status = status out.value from hstatus]
    cases out.value <;> simp [status]
  refine ⟨hbound, hzero.trans ⟨fun hok => ?_, ?_⟩, fun hrefused => ?_, fun x hx =>
    ⟨fun y hy => hy.unique hx, fun call hcall f => hx.isOfCommand hcall,
      fun dir g htask row => hx.suiteDir_eq htask, hx.complete,
      fun result path hvalue hpath => ?_⟩⟩
  · by_cases hreached : ∃ x : Outset μ, x.Reached r around w
    · obtain ⟨x, hx⟩ := hreached
      exact ⟨x, hx, hx.execute_eq_ok_iff.1 hok⟩
    · obtain ⟨problem, hproblem⟩ := Request.execute_stopped htask hreached
      cases hok.symm.trans hproblem
  · rintro ⟨x, hx, hends⟩
    exact hx.execute_eq_ok_iff.2 hends
  · obtain ⟨problem, hout⟩ := Request.execute_refused around htask hrefused
    exact ⟨congrArg Outcome.events hout, hworld.trans (by rw [hout])⟩
  · obtain ⟨hsaved, hends⟩ := hx.reported hvalue hpath
    intro report files
    have hfiles : left.2.files = (report.save path files).1 := by
      rw [show left.2 = out.state.world from hworld, hsaved]
    refine ⟨hfiles, fun hwritable => ?_, fun hwritable => ⟨hbound.resolve_left fun h => ?_, ?_⟩⟩
    · have hsuccess : (left.1.status == 0) = report.success := by
        rw [Bool.eq_iff_iff, beq_iff_eq, hzero.trans hends]
        exact and_iff_left hwritable
      rw [hfiles, hsuccess]
      exact hwritable.read
    · exact hwritable (hends.1 (hzero.1 h)).2
    · rw [hfiles]
      exact Report.save_grown hwritable

/-! ## Samples -/

/-- Surroundings in which every program exits with status 0. -/
def sampleAround : Surroundings Unit where
  host := { run := fun _ _ _ => pure (.exited 0), query := fun _ _ => pure .failed }
  var? _ := none
  runId := "run"
  today := ⟨2024, 1, 1, 0, 0, 0, 0⟩
  clock _ := 0

/-- A world with an assembler and an interpreter in a directory, and with some other entries. -/
def toolWorld (entries : List (Name × Node)) : World Unit where
  files := { root := .dir ((Utf8.encode "t", .dir [(Utf8.encode "llvm-as-3.8", .file [] 0o755),
    (Utf8.encode "lli-3.8", .file [] 0o755)]) :: entries) }
  memory := ()

/-- What a request comes to that has these tools used for some suites. -/
def sampleOutset (w : World Unit) (suites : List (String × Suite)) : Outset Unit where
  settings := { toolDirs := [.ofText "t"] }
  plan := { generation := .llvm38, suites }
  assembler := .assembler (.ofText "t/llvm-as-3.8") { toolDirs := [.ofText "t"] }
  interpreter := .interpreter (.ofText "t/lli-3.8") { toolDirs := [.ofText "t"] }
  site := { world := w }

/-- Words that ask for a report about a suite. -/
def reportWords : List String :=
  ["test38", "gcc", "--tool-dir", "t", "--report-json", "r.json"]

/-- The request that is read from them. -/
def reportRequest : Request where
  options := { toolDirs := [.ofText "t"], reportTo := some (.ofText "r.json") }
  task := .test .llvm38 ["gcc"]

theorem readRequest_report : readRequest (reportWords.map Utf8.encode)
    (sampleAround.var? "IRBUILDER_CACHE_DIR") = .ok reportRequest :=
  readRequest_eq_ok (by decide +kernel)

/-- The suite. -/
def reportSuites : List (String × Suite) := [Suite.row "gcc" "gcc38" "GCC" "gcc"]

/-- What comes of the suite where it has no artifacts. -/
def emptyResult : RunResult :=
  ⟨"run", false, false, [⟨"gcc", .ofText "tests/cache/gcc", .skipped, .ofTally {}, [], 0⟩], 0⟩

/-- All paths in the report about it are texts. -/
theorem texts_emptyResult {x : Outset Unit} :
    ∀ p ∈ (x.report sampleAround emptyResult).paths, p.text?.isSome = true := by
  intro p hp
  obtain rfl := List.mem_singleton.1 hp
  decide +kernel

/-- A link at the place of the report to a directory that is not there. -/
def dangling : List (Name × Node) := [(Utf8.encode "r.json", .link (.ofText "no/r.json"))]

/-- The request comes to the suite. -/
theorem reached_dangling : (sampleOutset (toolWorld dangling) reportSuites).Reached reportRequest
    sampleAround (toolWorld dangling) :=
  ⟨Options.settings_eq_ok_iff.1 rfl, Request.plan?_eq_ok_iff.1 rfl, _, ⟨rfl, rfl⟩, ⟨rfl, rfl⟩⟩

/-- A report need not be written although one is asked for, the run came to its end, and all paths
in the report are texts. -/
theorem report_unwritten :
    ¬ ∀ (args : List Bytes) (around : Surroundings Unit) (r : Request) (w : World Unit)
      (x : Outset Unit) (result : RunResult) (path : Path),
      readRequest args (around.var? "IRBUILDER_CACHE_DIR") = .ok r →
      ((r.execute around).run { world := w }).events.any Event.isCancel = false →
      x.Reached r around w → (x.batch around).value = .ok result →
      r.options.reportTo = some path →
      (∀ p ∈ (x.report around result).paths, p.text?.isSome = true) →
      ∃ text, (run args around w).2.files.readText path = .ok text := by
  intro h
  obtain ⟨text, htext⟩ := h _ sampleAround reportRequest (toolWorld dangling) _ emptyResult
    (.ofText "r.json") readRequest_report rfl reached_dangling rfl rfl texts_emptyResult
  have hnone := congrArg (fun w : World Unit => w.files.readText (.ofText "r.json"))
    (run_of_request (w := toolWorld dangling) readRequest_report).2
  cases hnone.symm.trans htext

/-- A world in which there is nothing but the tools. -/
def bareWorld : World Unit := toolWorld []

/-- The request comes to the suite there, too. -/
theorem reached_bare : (sampleOutset bareWorld reportSuites).Reached reportRequest sampleAround
    bareWorld :=
  ⟨Options.settings_eq_ok_iff.1 rfl, Request.plan?_eq_ok_iff.1 rfl, _, ⟨rfl, rfl⟩, ⟨rfl, rfl⟩⟩

/-- The report about the suite can be written there. -/
theorem writable_bare : ((sampleOutset bareWorld reportSuites).report sampleAround
    emptyResult).Writable (.ofText "r.json") bareWorld.files :=
  ⟨texts_emptyResult, rfl, fun _ => ⟨_, rfl⟩⟩

/-- A world with a directory that holds an artifact. -/
def wholeWorld : World Unit :=
  toolWorld [(Utf8.encode "d", .dir (sampleDir ["a.bc", "a.out.ll"]))]

/-- The directory as a suite. -/
def wholeSuites : List (String × Suite) := [("/d", .unnamed sampleRoot)]

/-- The request to verify the directory. -/
def verifyRequest : Request where
  options := { toolDirs := [.ofText "t"] }
  task := .verify (.ofText "d") .llvm38

/-- It comes to the directory. -/
theorem reached_whole : (sampleOutset wholeWorld wholeSuites).Reached verifyRequest sampleAround
    wholeWorld :=
  ⟨Options.settings_eq_ok_iff.1 rfl, Request.plan?_eq_ok_iff.1 rfl, _, ⟨rfl, rfl⟩, ⟨rfl, rfl⟩⟩

/-- The run over the directory is a success. -/
theorem batch_wholeWorld : ∃ result,
    ((sampleOutset wholeWorld wholeSuites).batch sampleAround).value = .ok result ∧
      result.success = true := by
  let x := sampleOutset wholeWorld wholeSuites
  have hnode : wholeWorld.files.node? sampleRoot = some (.dir (sampleDir ["a.bc", "a.out.ll"])) :=
    rfl
  have hfound : Run.found sampleRoot x.site = [sampleArtifact "a"] :=
    (FileTree.discovered_of_files hnode (by decide +kernel) (by decide +kernel)).trans
      (by decide +kernel)
  have hv : Run.Yields (Run.verify (x.tools sampleAround) sampleRoot) x.site
      (.ok ⟨[(sampleArtifact "a").text], [], false⟩) _ _ :=
    ⟨(Run.verify_yields hfound (.intro _ _)).value, rfl, rfl⟩
  have hp : Run.Answers ((x.tools sampleAround).prepare "/d" (.unnamed sampleRoot) sampleRoot)
      x.site .skipped x.site := ⟨rfl, rfl⟩
  obtain ⟨result, -, hresult, -, -, -, hsuccess⟩ := Run.batch_of_verify .llvm38 "run" rfl hp hv
  exact ⟨result, hresult, hsuccess⟩

/-- A directory with an artifact passes, and a report about a suite without artifacts is written,
which says that the run is no success. -/
theorem run_status_sample :
    (run (["verify", "d", "--tool-dir", "t"].map Utf8.encode) sampleAround
      wholeWorld).1.status = 0 ∧
    (run (reportWords.map Utf8.encode) sampleAround bareWorld).1.status = 1 ∧
    ∃ text j, (run (reportWords.map Utf8.encode) sampleAround bareWorld).2.files.readText
        (.ofText "r.json") = .ok text ∧ Json.ofText? text = some j ∧
      Report.readSuccess? j = some false := by
  have hverify : readRequest (["verify", "d", "--tool-dir", "t"].map Utf8.encode)
      (sampleAround.var? "IRBUILDER_CACHE_DIR") = .ok verifyRequest :=
    readRequest_eq_ok (by decide +kernel)
  obtain ⟨-, hwhole, -⟩ := run_status wholeWorld hverify (fun _ h => nomatch h)
  obtain ⟨-, -, -, hreached⟩ := run_status bareWorld readRequest_report (fun _ h => nomatch h)
  obtain ⟨-, -, -, -, hwritten⟩ := hreached _ reached_bare
  obtain ⟨-, hread, -⟩ := hwritten emptyResult (.ofText "r.json") rfl rfl
  have hstatus : (run (reportWords.map Utf8.encode) sampleAround bareWorld).1.status = 1 := by
    rw [(run_of_request readRequest_report).1]
    rfl
  refine ⟨hwhole.2 ⟨_, reached_whole, ?_⟩, hstatus, ?_⟩
  · obtain ⟨result, hvalue, hsuccess⟩ := batch_wholeWorld
    exact ⟨Run.recorded_free_iff.2 ⟨result, hvalue⟩,
      Run.batch_succeeds_iff.1 ⟨result, hvalue, hsuccess⟩, fun path hpath => nomatch hpath⟩
  · obtain hnull | ⟨text, j, htext, -, hj, hsuccess⟩ := hread writable_bare
    · have hfile := congrArg (fun w : World Unit => w.files.node (.ofText "r.json"))
        (run_of_request (w := bareWorld) readRequest_report).2
      cases hfile.symm.trans hnull
    · rw [hstatus] at hsuccess
      exact ⟨text, j, htext, hj, hsuccess⟩

end RoundTrip.CommandLine

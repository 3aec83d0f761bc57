import RoundTrip.Proofs.Batch.Completion
import RoundTrip.Proofs.CommandLine.Installing
import RoundTrip.Proofs.CommandLine.Planning
import RoundTrip.Proofs.CommandLine.Reporting

/-!
# What carrying out a request does

A request comes to its suites by way of settings, a plan and two tools (`Outset.Reached`). If any of
these is missing it has a problem (`Request.execute_stopped`), and without settings or a plan
nothing has happened by then (`Request.execute_refused`). Otherwise its suites are run, the report
about them is written, and the request ends well just if no assembler fails, all suites pass, and
the report can be written (`Outset.Reached.execute_eq_ok_iff`).
-/

namespace RoundTrip

variable {μ : Type}

/-- What a request has come to when its suites are about to be run. -/
structure Outset (μ : Type) where
  /-- The settings. -/
  settings : Settings
  /-- The plan. -/
  plan : Plan
  /-- The assembler. -/
  assembler : Installed
  /-- The interpreter. -/
  interpreter : Installed
  /-- The site in which the suites are run. -/
  site : Site μ

namespace Outset

/-- The tools of the suites. -/
def tools (x : Outset μ) (around : Surroundings μ) : Tools μ :=
  x.plan.tools around x.settings x.assembler x.interpreter

/-- What comes of the run over the suites. -/
def batch (x : Outset μ) (around : Surroundings μ) :
    Outcome Event (Site μ) (Attempt RunResult) :=
  (Run.batch (x.tools around) x.plan.generation x.settings around.runId x.plan.suites).run x.site

/-- The calls of the assembler in the run over the suites, with its answers, in order. -/
def calls (x : Outset μ) (around : Surroundings μ) : List (Path × Attempt Int32) :=
  ((Run.batch (x.tools around).recorded x.plan.generation x.settings around.runId
    x.plan.suites).run x.site.recording).state.record

/-- The report about a run over the suites. -/
def report (x : Outset μ) (around : Surroundings μ) (result : RunResult) : Report :=
  result.report x.plan.generation.label around.today

/-- A request comes to its suites: it has settings, its task asks for a plan, and the tools of the
plan are found. -/
structure Reached (r : Request) (around : Surroundings μ) (w : World μ) (x : Outset μ) : Prop where
  configured : r.options.Configures w.files x.settings
  planned : r.task.Asks x.settings w.files x.plan
  installed : x.plan.Installs around x.settings { world := w } x.assembler x.interpreter x.site

/-- The report about the run over the suites can be written, if one is asked for. -/
def Reports (r : Request) (around : Surroundings μ) (x : Outset μ) : Prop :=
  ∀ path, r.options.reportTo = some path → ∃ result, (x.batch around).value = .ok result ∧
    (x.report around result).Writable path (x.batch around).state.world.files

end Outset

/-! ## The end of a run -/

namespace RunResult

/-- The program is content with a run just if it is a success, since that is not cancelled. -/
theorem judge_eq_ok_iff {r : RunResult} (h : r.success = true → r.cancelled = false) :
    r.judge = .ok () ↔ r.success = true := by
  rw [judge]
  cases hcancelled : r.cancelled <;> cases hsuccess : r.success <;> simp_all

/-- What comes of the report about a run: whether the program is content, and the files behind
it. -/
def outcome (r : RunResult) (around : Surroundings μ) (g : Generation) (reportTo : Option Path)
    (files : FileTree) : FileTree × Except Problem Unit :=
  match reportTo with
  | none => (files, r.judge)
  | some path =>
    let saved := (r.report g.label around.today).save path files
    (saved.1, match saved.2 with
      | .ok () => r.judge
      | .error f => .error (.reportUnwritten path f))

/-- Writing the report about a run changes the files alone. -/
theorem writeReport_yields (r : RunResult) (around : Surroundings μ) (g : Generation) (path : Path)
    (s : Site μ) :
    let saved := (r.report g.label around.today).save path s.world.files
    ∃ own, Run.Yields (r.writeReport around g path) s
      (saved.2.mapError (.reportUnwritten path)) own
      { s with world := { s.world with files := saved.1 } } := by
  dsimp only
  generalize hsaved : (r.report g.label around.today).save path s.world.files = saved
  obtain ⟨files, f | ⟨⟩⟩ := saved
  · refine ⟨[] ++ ([] ++ []), .bind (.see _) ?_⟩
    rw [hsaved]
    exact .bind (.change _) (.pure _)
  · refine ⟨[] ++ ([] ++ ([.noted (.reportWritten path)] ++ [])), .bind (.see _) ?_⟩
    rw [hsaved]
    exact .bind (.change _) (.bind (.note _) (.pure _))

/-- The end of a run is fine just if the run is a success and its report, if one is asked for, can
be written. -/
theorem outcome_eq_ok_iff {r : RunResult} {around : Surroundings μ} {g : Generation}
    {reportTo : Option Path} {files : FileTree} (h : r.success = true → r.cancelled = false) :
    (r.outcome around g reportTo files).2 = .ok () ↔ r.success = true ∧ ∀ path,
      reportTo = some path → (r.report g.label around.today).Writable path files := by
  cases reportTo with
  | none => simp [outcome, judge_eq_ok_iff h]
  | some path =>
    simp only [outcome, Option.some.injEq, forall_eq', ← Report.save_eq_ok_iff_writable]
    cases ((r.report g.label around.today).save path files).2 with
    | error f => simp
    | ok u => simp [judge_eq_ok_iff h]

/-- At the end of a run its report is written, and nothing else is changed. -/
theorem finish_yields (r : RunResult) (around : Surroundings μ) (g : Generation)
    (reportTo : Option Path) (s : Site μ) :
    let last := r.outcome around g reportTo s.world.files
    ∃ own, Run.Yields (r.finish around g reportTo) s last.2 own
      { s with world := { s.world with files := last.1 } } := by
  have hclosing : ∀ s : Site μ, Run.Yields (do Act.emit (.said .out r.closing); pure r.judge) s
      r.judge [.said .out r.closing] s := fun s => .bind (.emit rfl) (.pure _)
  cases reportTo with
  | none => exact ⟨_, .bind (.pure _) (hclosing s)⟩
  | some path =>
    obtain ⟨own, hwrite⟩ := r.writeReport_yields around g path s
    dsimp only [outcome]
    generalize (r.report g.label around.today).save path s.world.files = saved at hwrite
    obtain ⟨files, f | ⟨⟩⟩ := saved
    · exact ⟨_, .bind hwrite (.pure _)⟩
    · exact ⟨_, .bind hwrite (hclosing _)⟩

/-- Writing the report asks for nothing. -/
theorem writeReport_heeds (r : RunResult) (around : Surroundings μ) (g : Generation) (path : Path)
    (s : Site μ) : Run.Heeds (r.writeReport around g path) s := by
  refine .bind (.see _) ?_
  split
  refine .bind (.change rfl) ?_
  split
  · exact .pure _
  · exact .bind (.note _) (.pure _)

/-- The end of a run asks for nothing. -/
theorem finish_heeds (r : RunResult) (around : Surroundings μ) (g : Generation)
    (reportTo : Option Path) (s : Site μ) : Run.Heeds (r.finish around g reportTo) s := by
  have hclosing : ∀ s : Site μ, Run.Heeds (do Act.emit (.said .out r.closing); pure r.judge) s :=
    fun s => .bind (.emit rfl fun _ => rfl) (.pure _)
  cases reportTo with
  | none => exact .bind (.pure _) (hclosing s)
  | some path =>
    refine .bind (r.writeReport_heeds around g path s) ?_
    dsimp only
    split
    · exact .pure _
    · exact hclosing _

end RunResult

/-- Looking for the tools of a plan and running its suites heeds the flag that cancels a run. -/
theorem Plan.run_heeds (p : Plan) (around : Surroundings μ) (s : Settings) (site : Site μ) :
    Run.Heeds (p.run around s) site := by
  refine .bind (.bind (.perform _) ?_) ?_
  · split
    · exact .pure _
    · refine .bind (.perform _) ?_
      split
      · exact .pure _
      · exact .bind (.note _) (.pure _)
  · split
    · exact .pure _
    · exact .bind (Run.batch_heeds ..) (.pure _)

/-! ## Carrying out a request -/

namespace Request

variable {r : Request} {around : Surroundings μ} {w : World μ}

/-- A request without settings or without a plan is refused, and nothing has happened. -/
theorem execute_refused (around : Surroundings μ) (htask : ∀ g, r.task ≠ .list g)
    (h : ¬ ∃ s p, r.options.Configures w.files s ∧ r.task.Asks s w.files p) :
    ∃ problem, (r.execute around).run { world := w } = ⟨.error problem, [], { world := w }⟩ := by
  simp only [execute, Run.files, Act.run_bind, Act.run_see, List.nil_append]
  cases hsettings : r.options.settings w.files with
  | error problem => exact ⟨problem, rfl⟩
  | ok s =>
    dsimp only
    cases hplan : r.plan? s w.files with
    | none =>
      rw [plan?] at hplan
      split at hplan
      · cases hplan
      · cases hplan
      · next g hlist => exact absurd hlist (htask g)
    | some planned =>
      cases planned with
      | error problem => exact ⟨problem, rfl⟩
      | ok p =>
        exact absurd ⟨s, p, Options.settings_eq_ok_iff.1 hsettings, plan?_eq_ok_iff.1 hplan⟩ h

/-- A request with settings and a plan follows the plan. -/
theorem execute_planned {s : Settings} {p : Plan} (hs : r.options.Configures w.files s)
    (hp : r.task.Asks s w.files p) :
    (r.execute around).run { world := w } = (r.follow around s p).run { world := w } := by
  simp only [execute, Run.files, Act.run_bind, Act.run_see, List.nil_append,
    Options.settings_eq_ok_iff.2 hs, plan?_eq_ok_iff.2 hp]

/-- A request that comes to its suites runs them, and ends with the report. -/
theorem execute_yields {x : Outset μ} (h : x.Reached r around w) :
    ∃ own, match (x.batch around).value with
      | .error f => Run.Yields (r.execute around) { world := w } (.error (.stopped f)) own
          (x.batch around).state
      | .ok result =>
        let done := (x.batch around).state
        let last := result.outcome around x.plan.generation r.options.reportTo done.world.files
        Run.Yields (r.execute around) { world := w } last.2 own
          { done with world := { done.world with files := last.1 } } := by
  have hrun : Run.Yields (x.plan.run around x.settings) { world := w }
      ((x.batch around).value.mapError .stopped) _ (x.batch around).state :=
    .bind h.installed.install_yields (.bind (.intro _ _) (.pure _))
  have hexecute : ∀ {y own s'},
      Run.Yields (r.follow around x.settings x.plan) { world := w } y own s' →
      Run.Yields (r.execute around) { world := w } y own s' := by
    rintro y own s' ⟨hvalue, hown, hstate⟩
    rw [← execute_planned h.configured h.planned] at hvalue hown hstate
    exact ⟨hvalue, hown, hstate⟩
  cases hvalue : (x.batch around).value with
  | error f =>
    rw [hvalue] at hrun
    exact ⟨_, hexecute (.bind hrun (.pure _))⟩
  | ok result =>
    rw [hvalue] at hrun
    obtain ⟨own, hfinish⟩ := result.finish_yields around x.plan.generation r.options.reportTo
      (x.batch around).state
    exact ⟨_, hexecute (.bind hrun hfinish)⟩

/-- A request that does not come to its suites has a problem. -/
theorem execute_stopped (htask : ∀ g, r.task ≠ .list g)
    (h : ¬ ∃ x : Outset μ, x.Reached r around w) :
    ∃ problem, ((r.execute around).run { world := w }).value = .error problem := by
  by_cases hplanned : ∃ s p, r.options.Configures w.files s ∧ r.task.Asks s w.files p
  · obtain ⟨s, p, hs, hp⟩ := hplanned
    have hnone : ¬ ∃ assembler interpreter site',
        p.Installs around s { world := w } assembler interpreter site' :=
      fun ⟨assembler, interpreter, site', hinstalls⟩ =>
        h ⟨⟨s, p, assembler, interpreter, site'⟩, hs, hp, hinstalls⟩
    obtain ⟨problem, own, site, hy⟩ := Plan.install_fails hnone
    have hrun : Run.Yields (p.run around s) { world := w } (.error problem) _ site :=
      .bind hy (.pure _)
    have hfollow : Run.Yields (r.follow around s p) { world := w } (.error problem) _ site :=
      .bind hrun (.pure _)
    rw [execute_planned hs hp]
    exact ⟨problem, hfollow.value⟩
  · obtain ⟨problem, hproblem⟩ := execute_refused around htask hplanned
    exact ⟨problem, by rw [hproblem]⟩

/-- A request heeds the flag that cancels a run. -/
theorem execute_heeds (r : Request) (around : Surroundings μ) (s : Site μ) :
    Run.Heeds (r.execute around) s := by
  refine .bind (.see _) ?_
  split
  · exact .pure _
  · split
    · refine .bind (Plan.run_heeds _ _ _ _) ?_
      split
      · exact .pure _
      · exact RunResult.finish_heeds ..
    · exact .pure _
    · exact .bind (.emit rfl fun _ => rfl) (.pure _)

end Request

namespace Outset

variable {r : Request} {around : Surroundings μ} {w : World μ} {x y : Outset μ}

/-- A request comes to its suites in one way. -/
theorem Reached.unique (hx : x.Reached r around w) (hy : y.Reached r around w) : x = y := by
  obtain ⟨settings, plan, assembler, interpreter, site⟩ := x
  obtain ⟨settings', plan', assembler', interpreter', site'⟩ := y
  obtain ⟨hs, hp, ⟨between, ha, hi⟩⟩ := hx
  obtain ⟨hs', hp', ⟨between', ha', hi'⟩⟩ := hy
  dsimp only at hs hs' hp hp' ha ha' hi hi'
  obtain rfl := Except.ok.inj
    ((Options.settings_eq_ok_iff.2 hs).symm.trans (Options.settings_eq_ok_iff.2 hs'))
  obtain ⟨⟩ := (Request.plan?_eq_ok_iff.2 hp).symm.trans (Request.plan?_eq_ok_iff.2 hp')
  obtain ⟨⟨⟩, rfl⟩ := ha.det ha'
  obtain ⟨⟨⟩, rfl⟩ := hi.det hi'
  rfl

/-- A failure in the run over the suites is one of a command that cannot be started or whose time is
over. -/
theorem Reached.isOfCommand (h : x.Reached r around w) {call : Path × Attempt Int32}
    (hcall : call ∈ x.calls around) {f : Failure} (hf : call.2 = .error f) :
    f.isOfCommand = true := by
  obtain ⟨text, s, s', hvalue, -⟩ := Run.fails_of_recorded hcall hf
  exact Installed.isOfCommand_of_assemble h.installed.isEmpty_program hvalue

/-- A request to verify a directory runs over the directory itself, wherever the cache root is. -/
theorem Reached.suiteDir_eq (h : x.Reached r around w) {dir : Path} {g : Generation}
    (htask : r.task = .verify dir g) {row : String × Suite} (hrow : row ∈ x.plan.suites) :
    x.settings.suiteDir row.2.cacheDir = w.files.here.join dir := by
  have hplanned := h.planned
  rw [htask] at hplanned
  generalize x.plan = p at hplanned hrow
  cases hplanned with
  | directory =>
    obtain rfl := List.mem_singleton.1 hrow
    exact x.settings.suiteDir_of_isAbsolute (w.files.isAbsolute_join_here dir)

/-- If nobody asks for the run to be cancelled and no assembler fails, every suite has its session,
and every artifact that is found is examined. -/
theorem Reached.complete (h : x.Reached r around w)
    (hcancel : ((r.execute around).run { world := w }).events.any Event.isCancel = false)
    (hfree : ∀ call ∈ x.calls around, call.2.failure? = none) :
    ∃ sessions s', Run.Sessions (x.tools around) x.settings x.site sessions s' ∧
      sessions.map Session.request = x.plan.suites ∧
      ∀ y ∈ sessions, y.visits.map (·.artifact) = y.found x.settings := by
  obtain ⟨result, hvalue⟩ := Run.recorded_free_iff.1 hfree
  obtain ⟨own, hy⟩ := Request.execute_yields h
  change (x.batch around).value = .ok result at hvalue
  rw [hvalue] at hy
  -- the report changes the files alone, so the flag is that of the run over the suites
  have hflag : (x.batch around).state.cancelled = false := by
    have hend := (Request.execute_heeds r around { world := w }).flag
    rwa [hcancel, hy.state] at hend
  exact Run.batch_complete hvalue hflag

/-- A request that comes to its suites ends well just if no assembler fails, all suites pass, and
the report, if one is asked for, can be written. -/
theorem Reached.execute_eq_ok_iff (h : x.Reached r around w) :
    ((r.execute around).run { world := w }).value = .ok () ↔
      (∀ call ∈ x.calls around, call.2.failure? = none) ∧
        Run.AllPass (x.tools around) x.settings x.plan.suites x.site ∧ x.Reports r around := by
  obtain ⟨own, hy⟩ := Request.execute_yields h
  rw [calls, Run.recorded_free_iff, ← Run.batch_succeeds_iff]
  change _ ↔ (∃ result, (x.batch around).value = .ok result) ∧
    (∃ result, (x.batch around).value = .ok result ∧ result.success = true) ∧ _
  cases hvalue : (x.batch around).value with
  | error f =>
    rw [hvalue] at hy
    simp [hy.value]
  | ok result =>
    rw [hvalue] at hy
    rw [hy.value, RunResult.outcome_eq_ok_iff (Run.cancelled_of_success hvalue)]
    simp [Reports, hvalue, report]

/-- Where a report is asked for and the run over the suites comes to its end, the files are left as
saving the report leaves them, and the request ends well just if the run is a success and the report
can be written. -/
theorem Reached.reported (h : x.Reached r around w) {result : RunResult} {path : Path}
    (hvalue : (x.batch around).value = .ok result) (hpath : r.options.reportTo = some path) :
    let out := (r.execute around).run { world := w }
    let files := (x.batch around).state.world.files
    out.state.world.files = ((x.report around result).save path files).1 ∧
      (out.value = .ok () ↔
        result.success = true ∧ (x.report around result).Writable path files) := by
  obtain ⟨own, hy⟩ := Request.execute_yields h
  rw [hvalue, hpath] at hy
  dsimp only
  rw [hy.state, hy.value, RunResult.outcome_eq_ok_iff (Run.cancelled_of_success hvalue)]
  exact ⟨rfl, by simp [report]⟩

end Outset

end RoundTrip

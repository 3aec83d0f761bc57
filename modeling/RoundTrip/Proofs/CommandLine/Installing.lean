import RoundTrip.CommandLine.Execution
import RoundTrip.Proofs.Commands.Fates
import RoundTrip.Proofs.Resolution.Procedure
import RoundTrip.Proofs.Run.Yields

/-!
# The tools of a plan

A plan is run with an assembler and an interpreter that were found for it, the assembler first
(`Plan.Installs`). What is found is a program that can be executed, so its command is never
empty, and an assembler that was found fails only where its command cannot be started or its time is
over (`Installed.isOfCommand_of_assemble`).
-/

namespace RoundTrip

variable {μ : Type}

/-- Whether a failure is one of a command that was to be run: it cannot be started, or its time was
over. -/
def Failure.isOfCommand : Failure → Bool
  | .launchFailure .. | .timeout .. => true
  | _ => false

/-- What can be executed has a name. -/
theorem FileTree.isEmpty_of_isExecutable {files : FileTree} {p : Path}
    (h : files.isExecutable p = true) : p.isEmpty = false := by
  obtain ⟨node, hnode, -⟩ := (Option.any_eq_true _ _).1 h
  refine Bool.eq_false_iff.2 fun hempty => ?_
  have hbytes : p.bytes = [] := List.isEmpty_iff.1 hempty
  simp [node?, FileTree.node, landing, refusal?, Path.isEmpty, hbytes, Except.toOption] at hnode

/-- What a resolver comes to has a name. -/
theorem Resolver.isEmpty_of_resolve {r : Resolver} {host : Host μ} {tool : String}
    {accepted : VersionList} {w : World μ} {path : Path}
    (h : ((r.resolve host tool accepted).run w).value = .ok path) : path.isEmpty = false := by
  rw [(resolve_run r host tool accepted w).1, plainly] at h
  split at h
  · next found hfound =>
    obtain rfl := Except.ok.inj h
    obtain ⟨version, hversion, hprogram⟩ := List.exists_of_findSome?_eq_some hfound
    obtain ⟨_, -, _, -, -, _, -, -, hexec⟩ := exists_dir_of_programFor hversion hprogram
    exact FileTree.isEmpty_of_isExecutable hexec
  · cases h

/-- A command with a program fails only where it cannot be started or its time is over. -/
theorem Launcher.isOfCommand_of_execute {l : Launcher} {host : Host μ} {c : Command} {w : World μ}
    {f : Failure} (hprogram : c.program.isEmpty = false)
    (h : ((l.execute host c).run w).value = .error f) : f.isOfCommand = true := by
  rw [execute_eq hprogram] at h
  obtain ⟨-, hfailure⟩ := answer_eq_error_iff.1 h
  generalize ((host.run c (l.verbose || c.visible) l.limit).run w).value = fate at hfailure
  cases fate <;> cases hfailure <;> rfl

/-- An assembler whose program has a name fails only where its command cannot be started or its time
is over. -/
theorem Installed.isOfCommand_of_assemble {t : Installed} {host : Host μ} {flags : List String}
    {input : Path} {w : World μ} {f : Failure} (hprogram : t.program.isEmpty = false)
    (h : ((t.assemble host flags input).run w).value = .error f) : f.isOfCommand = true := by
  rw [value_assemble] at h
  cases hrun : ((t.launcher.execute host (t.assembly flags input)).run w).value with
  | error g =>
    rw [hrun] at h
    obtain rfl : g = f := Except.error.inj h
    exact Launcher.isOfCommand_of_execute hprogram hrun
  | ok ending =>
    rw [hrun] at h
    cases h

/-- Where the tools of a run are looked for. -/
def Surroundings.resolver (around : Surroundings μ) (s : Settings) : Resolver :=
  .ofSettings s (around.var? "PATH")

namespace Plan

/-- The assembler and the interpreter that are found for a plan, one after the other, and the site
behind that. -/
def Installs (p : Plan) (around : Surroundings μ) (s : Settings) (site : Site μ)
    (assembler interpreter : Installed) (site' : Site μ) : Prop :=
  ∃ between, Run.Answers ((around.resolver s).assembler around.host p.generation.versions s) site
      (.ok assembler) between ∧
    Run.Answers ((around.resolver s).interpreter around.host p.generation.versions s) between
      (.ok interpreter) site'

variable {p : Plan} {around : Surroundings μ} {s : Settings} {site site' : Site μ}
  {assembler interpreter : Installed}

/-- The assembler that is found has a program with a name. -/
theorem Installs.isEmpty_program (h : p.Installs around s site assembler interpreter site') :
    assembler.program.isEmpty = false := by
  obtain ⟨between, ⟨hvalue, -⟩, -⟩ := h
  let found := (around.resolver s).resolve around.host assemblerName p.generation.versions
  change (found.run site.world).value.map (Installed.assembler · s) = .ok assembler at hvalue
  cases hfound : (found.run site.world).value with
  | error f =>
    rw [hfound] at hvalue
    cases hvalue
  | ok path =>
    rw [hfound] at hvalue
    obtain rfl : Installed.assembler path s = assembler := Except.ok.inj hvalue
    exact Resolver.isEmpty_of_resolve hfound

/-- A plan is installed with the tools that are found. -/
theorem Installs.install_yields (h : p.Installs around s site assembler interpreter site') :
    Run.Yields (p.install around s) site (.ok (assembler, interpreter))
      [.noted (.toolsResolved assembler.program interpreter.program p.generation)] site' := by
  obtain ⟨between, hassembler, hinterpreter⟩ := h
  exact .bind (.perform hassembler) (.bind (.perform hinterpreter) (.bind (.note _) (.pure _)))

/-- A plan for which no tools are found has a problem. -/
theorem install_fails
    (h : ¬ ∃ assembler interpreter site', p.Installs around s site assembler interpreter site') :
    ∃ problem own site', Run.Yields (p.install around s) site (.error problem) own site' := by
  let resolver := around.resolver s
  have hassembler : Run.Answers (resolver.assembler around.host p.generation.versions s) site _ _ :=
    .intro _ _
  generalize (Run.perform _).run site = out at hassembler
  obtain ⟨f | assembler, _, between⟩ := out
  · exact ⟨_, _, _, .bind (.perform hassembler) (.pure _)⟩
  · have hinterpreter :
        Run.Answers (resolver.interpreter around.host p.generation.versions s) between _ _ :=
      .intro _ _
    generalize (Run.perform _).run between = out at hinterpreter
    obtain ⟨f | interpreter, _, site'⟩ := out
    · exact ⟨_, _, _, .bind (.perform hassembler) (.bind (.perform hinterpreter) (.pure _))⟩
    · exact absurd ⟨assembler, interpreter, site', between, hassembler, hinterpreter⟩ h

end Plan

end RoundTrip

import RoundTrip.Proofs.Run.Yields
import RoundTrip.Verification

/-!
# What the examination of an artifact does

`Run.Examination` tells by the answers of the tools alone what is found out about an artifact,
which tools are called for it, in order, and which site is left behind. It has a rule for each
finding, and no rule runs a binary whose text was rejected or whose reference is missing.
`Examination.yields` is the step theorem of `Run.examine`, and `examine_cases` says that the
rules miss nothing but an assembler that fails.
-/

namespace RoundTrip

/-- The notes about an artifact with a finding, besides the one that it was examined. -/
def Finding.notes (a : Artifact) : Finding → List Event
  | .failed (.rejected _) => []
  | .failed .referenceMissing => [.noted (.referenceMissing a.reference)]
  | .failed (.endingsDiffer reference regenerated) =>
    [.noted (.interpreted a.text reference regenerated)]
  | .passed ending => [.noted (.interpreted a.text ending ending)]

/-- Notes are no steps. -/
theorem Finding.filter_isStep_notes (f : Finding) (a : Artifact) :
    (f.notes a).filter Event.isStep = [] := by
  match f with
  | .failed (.rejected _) | .failed .referenceMissing | .failed (.endingsDiffer ..)
  | .passed _ => rfl

/-- The calls of tools for an artifact that is assembled, and whose binaries are run. -/
def Artifact.calls (a : Artifact) : List Event :=
  [.assembling a.text, .interpreting a.reference, .interpreting a.binary]

namespace Run

variable {μ : Type}

/-- The examination of an artifact in a site: what is found out, which tools are called, and which
site is left. -/
inductive Examination (tools : Tools μ) (a : Artifact) (s : Site μ) :
    Finding → List Event → Site μ → Prop
  | rejected {code : Int32} {s₁ : Site μ} : Answers (tools.assemble a.text) s (.ok code) s₁ →
      code ≠ 0 → Examination tools a s (.failed (.rejected code)) [.assembling a.text] s₁
  | unreferenced {s₁ : Site μ} : Answers (tools.assemble a.text) s (.ok 0) s₁ →
      s₁.world.files.isFile a.reference = false →
      Examination tools a s (.failed .referenceMissing) [.assembling a.text] s₁
  | agreed {ending : Ending} {s₁ s₂ s₃ : Site μ} :
      Answers (tools.assemble a.text) s (.ok 0) s₁ →
      s₁.world.files.isFile a.reference = true →
      Answers (tools.interpret a.reference) s₁ ending s₂ →
      Answers (tools.interpret a.binary) s₂ ending s₃ →
      Examination tools a s (.passed ending) a.calls s₃
  | differed {reference regenerated : Ending} {s₁ s₂ s₃ : Site μ} :
      Answers (tools.assemble a.text) s (.ok 0) s₁ →
      s₁.world.files.isFile a.reference = true →
      Answers (tools.interpret a.reference) s₁ reference s₂ →
      Answers (tools.interpret a.binary) s₂ regenerated s₃ → reference ≠ regenerated →
      Examination tools a s (.failed (.endingsDiffer reference regenerated)) a.calls s₃

/-- The assembler accepts the text of an artifact, the reference binary is then a file, and both
binaries end alike. -/
def Passes (tools : Tools μ) (a : Artifact) (s : Site μ) : Prop :=
  ∃ s₁ s₂ s₃ ending, Answers (tools.assemble a.text) s (.ok 0) s₁ ∧
    s₁.world.files.isFile a.reference = true ∧
    Answers (tools.interpret a.reference) s₁ ending s₂ ∧
    Answers (tools.interpret a.binary) s₂ ending s₃

variable {tools : Tools μ} {a : Artifact} {s s₁ s₂ s₃ s' : Site μ}

/-- Comparing two binaries calls the interpreter on the reference first. -/
theorem compare_yields {reference regenerated : Ending}
    (h₁ : Answers (tools.interpret a.reference) s₁ reference s₂)
    (h₂ : Answers (tools.interpret a.binary) s₂ regenerated s₃) :
    Yields (compare tools a) s₁ (.ofEndings reference regenerated)
      [.interpreting a.reference, .interpreting a.binary,
        .noted (.interpreted a.text reference regenerated)] s₃ :=
  .bind (.emit rfl) (.bind (.perform h₁) (.bind (.emit rfl) (.bind (.perform h₂)
    (.bind (.note _) (.pure _)))))

/-- What is done with an artifact follows from what its assembler answers. -/
theorem examine_yields {code : Int32} {f : Finding} {own : List Event}
    (h₁ : Answers (tools.assemble a.text) s (.ok code) s₁)
    (h₂ : Yields (examineAssembled tools a code) s₁ f own s₂) :
    Yields (examine tools a) s (.ok f) (.assembling a.text :: own) s₂ := by
  refine .of_own (.bind (.emit rfl) (.bind (.perform h₁) (.bind h₂ (.pure _)))) ?_
  simp

/-- An assembler that fails ends the examination with its failure. -/
theorem examine_yields_error {f : Failure}
    (h : Answers (tools.assemble a.text) s (.error f) s₁) :
    Yields (examine tools a) s (.error f) [.assembling a.text] s₁ :=
  .bind (.emit rfl) (.bind (.perform h) (.pure _))

/-- The rules of `Examination` are what `examine` does. -/
theorem Examination.yields {f : Finding} {calls : List Event}
    (h : Examination tools a s f calls s') :
    Yields (examine tools a) s (.ok f) (calls ++ f.notes a) s' := by
  cases h with
  | rejected h₁ hc =>
    refine examine_yields h₁ ?_
    rw [examineAssembled, if_pos hc]
    exact .pure _
  | unreferenced h₁ hf =>
    refine examine_yields h₁ ?_
    rw [examineAssembled, if_neg (by simp)]
    refine .bind (.see _) ?_
    rw [if_neg (by simp [hf])]
    exact .bind (.note _) (.pure _)
  | agreed h₁ hf h₂ h₃ =>
    refine examine_yields h₁ ?_
    rw [examineAssembled, if_neg (by simp)]
    refine .of_own (.bind (.see _) ?_) (List.nil_append _)
    rw [if_pos hf]
    have := compare_yields h₂ h₃
    rw [Finding.ofEndings, if_pos rfl] at this
    exact this
  | differed h₁ hf h₂ h₃ hne =>
    refine examine_yields h₁ ?_
    rw [examineAssembled, if_neg (by simp)]
    refine .of_own (.bind (.see _) ?_) (List.nil_append _)
    rw [if_pos hf]
    have := compare_yields h₂ h₃
    rw [Finding.ofEndings, if_neg hne] at this
    exact this

/-- Either the assembler fails, or one of the rules of `Examination` applies. -/
theorem examine_cases (tools : Tools μ) (a : Artifact) (s : Site μ) :
    (∃ f s₁, Answers (tools.assemble a.text) s (.error f) s₁) ∨
      ∃ f calls s', Examination tools a s f calls s' := by
  have h₁ := Answers.intro (tools.assemble a.text) s
  match hx : ((perform (tools.assemble a.text)).run s).value with
  | .error f => exact .inl ⟨f, _, hx ▸ h₁⟩
  | .ok code =>
    rw [hx] at h₁
    refine .inr ?_
    by_cases hc : code = 0
    · subst hc
      by_cases hf : ((perform (tools.assemble a.text)).run s).state.world.files.isFile a.reference
      · have h₂ := Answers.intro (tools.interpret a.reference)
          ((perform (tools.assemble a.text)).run s).state
        have h₃ := Answers.intro (tools.interpret a.binary)
          ((perform (tools.interpret a.reference)).run
            ((perform (tools.assemble a.text)).run s).state).state
        by_cases he : ((perform (tools.interpret a.reference)).run
            ((perform (tools.assemble a.text)).run s).state).value =
          ((perform (tools.interpret a.binary)).run
            ((perform (tools.interpret a.reference)).run
              ((perform (tools.assemble a.text)).run s).state).state).value
        · exact ⟨_, _, _, .agreed h₁ hf h₂ (he ▸ h₃)⟩
        · exact ⟨_, _, _, .differed h₁ hf h₂ h₃ he⟩
      · exact ⟨_, _, _, .unreferenced h₁ (by simpa using hf)⟩
    · exact ⟨_, _, _, .rejected h₁ hc⟩

/-- An artifact that was examined gets a passing finding just if it passes. -/
theorem Examination.isPassed_iff {f : Finding} {calls : List Event}
    (h : Examination tools a s f calls s') : f.isPassed = true ↔ Passes tools a s := by
  constructor
  · intro hf
    cases h with
    | rejected | unreferenced | differed => simp [Finding.isPassed] at hf
    | agreed h₁ hr h₂ h₃ => exact ⟨_, _, _, _, h₁, hr, h₂, h₃⟩
  · rintro ⟨_, _, _, _, h₁, hr, h₂, h₃⟩
    have := (Examination.agreed h₁ hr h₂ h₃).yields.det h.yields
    obtain ⟨hf, -⟩ := this
    injection hf with hf
    subst hf
    rfl

/-- The calls of an examination are steps. -/
theorem Examination.filter_isStep {f : Finding} {calls : List Event}
    (h : Examination tools a s f calls s') : calls.filter Event.isStep = calls := by
  cases h <;> rfl

/-- An examination writes to no stream. -/
theorem Examination.streams {f : Finding} {calls : List Event}
    (h : Examination tools a s f calls s') : s'.streams = s.streams := by
  cases h with
  | rejected h₁ | unreferenced h₁ => exact h₁.streams
  | agreed h₁ _ h₂ h₃ | differed h₁ _ h₂ h₃ =>
    rw [h₃.streams, h₂.streams, h₁.streams]

end Run

end RoundTrip

import RoundTrip.Run

/-!
# What an action of a run yields

`Run.Yields` reads an action of a run as a big step: done in a site, it gives a value, does some
things of its own, in order, and leaves a site behind. The remarks of tools are left out of what a
run does of its own; they say what a tool did, and a tool may do what it likes. A step has one
`Yields` theorem, and sequences of steps are put together by `Yields.bind`, so that no proof
about a run has to look into the actions it is made of.

A tool that is called in a site (`Run.Answers`) answers as it likes, and its answer may depend on
all that happened before, because the site holds its memory.
-/

namespace RoundTrip

/-- Whether an event is the run's own, and no remark of a tool. -/
def Event.isOwn : Event → Bool
  | .remark _ => false
  | _ => true

/-- Whether an event is a step of a run that others take part in: a call of a tool, or something
that is written. -/
def Event.isStep : Event → Bool
  | .assembling _ | .interpreting _ | .preparing _ _ => true
  | .marked _ | .marksEnded | .summarized _ _ => true
  | _ => false

/-- A step of a run is no remark. -/
theorem Event.filter_isStep_filter_isOwn (events : List Event) :
    (events.filter Event.isOwn).filter Event.isStep = events.filter Event.isStep := by
  rw [List.filter_filter]
  congr 1
  funext e
  cases e <;> rfl

namespace Run

variable {μ α β : Type} {s s₁ s₂ : Site μ} {own own₁ own₂ : List Event}

/-- Done in a site, an action gives a value, does some things of its own, and leaves a site. -/
structure Yields (act : Run μ α) (s : Site μ) (x : α) (own : List Event) (s' : Site μ) :
    Prop where
  value : (act.run s).value = x
  own : (act.run s).events.filter Event.isOwn = own
  state : (act.run s).state = s'

/-- A tool that is called in a site gives an answer and leaves a site. -/
def Answers (tool : Tool μ α) (s : Site μ) (x : α) (s' : Site μ) : Prop :=
  ((perform tool).run s).value = x ∧ ((perform tool).run s).state = s'

namespace Yields

/-- What an action yields is determined by the site in which it is done. -/
theorem det {act : Run μ α} {x y : α} (h₁ : Yields act s x own₁ s₁)
    (h₂ : Yields act s y own₂ s₂) : x = y ∧ own₁ = own₂ ∧ s₁ = s₂ :=
  ⟨h₁.value.symm.trans h₂.value, h₁.own.symm.trans h₂.own, h₁.state.symm.trans h₂.state⟩

/-- Every action yields something. -/
theorem intro (act : Run μ α) (s : Site μ) :
    Yields act s (act.run s).value ((act.run s).events.filter Event.isOwn) (act.run s).state :=
  ⟨rfl, rfl, rfl⟩

/-- What an action does of its own may be written in another way. -/
theorem of_own {act : Run μ α} {x : α} (h : Yields act s x own₁ s₁) (e : own₁ = own₂) :
    Yields act s x own₂ s₁ := e ▸ h

theorem pure (x : α) : Yields (Pure.pure x : Run μ α) s x [] s := ⟨rfl, rfl, rfl⟩

/-- One action after another does what the two do, in order. -/
theorem bind {act : Run μ α} {next : α → Run μ β} {x : α} {y : β}
    (h₁ : Yields act s x own₁ s₁) (h₂ : Yields (next x) s₁ y own₂ s₂) :
    Yields (act >>= next) s y (own₁ ++ own₂) s₂ := by
  obtain ⟨rfl, rfl, rfl⟩ := h₁
  obtain ⟨rfl, rfl, rfl⟩ := h₂
  exact ⟨rfl, by simp, rfl⟩

theorem emit {e : Event} (h : e.isOwn = true) :
    Yields (Act.emit e : Run μ Unit) s () [e] s := ⟨rfl, by simp [h], rfl⟩

theorem note (n : Notice) : Yields (Run.note n) s () [.noted n] s := emit rfl

theorem noteAll (ns : List Notice) : Yields (Run.noteAll ns) s () (ns.map .noted) s := by
  induction ns with
  | nil => exact pure ()
  | cons n ns ih => exact bind (note n) ih

theorem see (f : Site μ → α) : Yields (Act.see f : Run μ α) s (f s) [] s := ⟨rfl, rfl, rfl⟩

theorem write (f : Streams → Streams) :
    Yields (Run.write f) s () [] { s with streams := f s.streams } := ⟨rfl, rfl, rfl⟩

theorem change (f : Site μ → Site μ) : Yields (Act.change f : Run μ Unit) s () [] (f s) :=
  ⟨rfl, rfl, rfl⟩

/-- A call of a tool does nothing of the run's own. -/
theorem perform {tool : Tool μ α} {x : α} (h : Answers tool s x s₁) :
    Yields (Run.perform tool) s x [] s₁ := by
  refine ⟨h.1, ?_, h.2⟩
  simp only [Run.perform, Act.run, List.filter_map, List.map_eq_nil_iff]
  exact List.filter_eq_nil_iff.2 fun r _ => by simp [Event.isOwn]

end Yields

/-- A tool answers something. -/
theorem Answers.intro (tool : Tool μ α) (s : Site μ) :
    Answers tool s ((perform tool).run s).value ((perform tool).run s).state := ⟨rfl, rfl⟩

/-- What a tool answers is determined by the site in which it is called. -/
theorem Answers.det {tool : Tool μ α} {x y : α} (h₁ : Answers tool s x s₁)
    (h₂ : Answers tool s y s₂) : x = y ∧ s₁ = s₂ :=
  ⟨h₁.1.symm.trans h₂.1, h₁.2.symm.trans h₂.2⟩

/-- No tool clears the flag that cancels a run. -/
theorem Answers.cancelled {tool : Tool μ α} {x : α} (h : Answers tool s x s₁)
    (hs : s.cancelled = true) : s₁.cancelled = true := by
  obtain ⟨-, rfl⟩ := h
  simp [perform, Act.run, hs]

/-- A tool writes to no stream. -/
theorem Answers.streams {tool : Tool μ α} {x : α} (h : Answers tool s x s₁) :
    s₁.streams = s.streams := by
  obtain ⟨-, rfl⟩ := h
  rfl

end Run

end RoundTrip

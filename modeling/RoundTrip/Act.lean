/-!
# Actions

An action reads and changes a state and leaves a list of events behind. Doing one action after
another joins their events in order (`Act.run_bind`), so what a run shows to the outside is a value
that can be reasoned about, and nothing in the library prints anything.
-/

namespace RoundTrip

/-- What an action gives: a value, the events on the way, and the state behind it. -/
structure Outcome (ε σ α : Type) where
  /-- The value. -/
  value : α
  /-- The events, in order. -/
  events : List ε
  /-- The state behind the action. -/
  state : σ

/-- An action on states `σ` with events `ε`. -/
def Act (ε σ α : Type) : Type := σ → Outcome ε σ α

namespace Act

variable {ε σ α β : Type}

/-- Does an action in a state. -/
def run (a : Act ε σ α) (s : σ) : Outcome ε σ α := a s

/-- Does an action and then the one that its value asks for. -/
def andThen (a : Act ε σ α) (f : α → Act ε σ β) : Act ε σ β := fun s =>
  let first := a s
  let second := f first.value first.state
  ⟨second.value, first.events ++ second.events, second.state⟩

instance : Monad (Act ε σ) where
  pure x := fun s => ⟨x, [], s⟩
  bind := andThen

/-- Leaves an event. -/
def emit (e : ε) : Act ε σ Unit := fun s => ⟨(), [e], s⟩

/-- A part of the state. -/
def see (f : σ → α) : Act ε σ α := fun s => ⟨f s, [], s⟩

/-- Changes the state. -/
def change (f : σ → σ) : Act ε σ Unit := fun s => ⟨(), [], f s⟩

/-- An action that does nothing. -/
@[simp] theorem run_pure (x : α) (s : σ) : (pure x : Act ε σ α).run s = ⟨x, [], s⟩ := rfl

/-- The events of two actions are joined in order. -/
@[simp] theorem run_bind (a : Act ε σ α) (f : α → Act ε σ β) (s : σ) :
    (a >>= f).run s =
      ⟨((f (a.run s).value).run (a.run s).state).value,
        (a.run s).events ++ ((f (a.run s).value).run (a.run s).state).events,
        ((f (a.run s).value).run (a.run s).state).state⟩ := rfl

@[simp] theorem run_emit (e : ε) (s : σ) : (emit e : Act ε σ Unit).run s = ⟨(), [e], s⟩ := rfl

@[simp] theorem run_see (f : σ → α) (s : σ) : (see f : Act ε σ α).run s = ⟨f s, [], s⟩ := rfl

@[simp] theorem run_change (f : σ → σ) (s : σ) :
    (change f : Act ε σ Unit).run s = ⟨(), [], f s⟩ := rfl

end Act

end RoundTrip

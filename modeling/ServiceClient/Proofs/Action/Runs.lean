/-
**How composed actions end.**

What can be told of the end of an action from the ends of its parts, where the equations of the
actions themselves say more than is needed: the state is left open, or what comes first is found
from what comes last.

Main results:

* `ServiceClient.Action.ok_of_run_bind`: if two actions end well, each of them does;
* `ServiceClient.Action.fst_handing_error_iff`, `ServiceClient.Action.snd_handing`,
  `ServiceClient.Action.run_bind_congr`: what comes first decides, if it fails or ends the same;
* `ServiceClient.Action.run_ensure_of_ok`, `ServiceClient.Action.run_ensure_modify`: cleaning up
  that does not fail;
* `ServiceClient.Action.EndsAlike.error_iff`, `ServiceClient.Action.EndsAlike.fst`,
  `ServiceClient.Action.EndsAlike.snd`: ends that are alike fail alike, and their states are
  related.
-/

import ServiceClient.Proofs.Action.Alike

set_option autoImplicit false

namespace ServiceClient.Action

variable {σ τ α β : Type}

/-- If two actions end well, the first one does and the second one does after it. -/
theorem ok_of_run_bind {m : Action σ α} {k : α → Action σ β} {g : Option Failure} {s s' : σ} {b : β}
    (h : (m >>= k) g s = (.ok b, s')) : ∃ a s₁, m g s = (.ok a, s₁) ∧ k a g s₁ = (.ok b, s') := by
  rw [run_bind] at h
  generalize m g s = x at h
  obtain ⟨f | a, s₁⟩ := x
  · cases h
  · exact ⟨a, s₁, rfl, h⟩

/-- What an action comes to may be put into another form. -/
theorem fst_handing {m : Action σ α} (into : α → β) {g : Option Failure} {s : σ} :
    ((do Pure.pure (into (← m)) : Action σ β) g s).1 = (m g s).1.map into := by
  rw [run_bind]
  generalize m g s = x
  obtain ⟨f | a, s'⟩ := x
  · rfl
  · rfl

/-- Putting what an action gives into another form does not change what it fails with. -/
theorem fst_handing_error_iff {m : Action σ α} (into : α → β) {g : Option Failure} {s : σ}
    {f : Failure} :
    ((do Pure.pure (into (← m)) : Action σ β) g s).1 = .error f ↔ (m g s).1 = .error f := by
  rw [fst_handing]
  generalize (m g s).1 = r
  cases r with
  | error f' =>
      constructor
      all_goals
        rintro ⟨⟩
        rfl
  | ok a => exact ⟨nofun, nofun⟩

/-- Nor does it change the state. -/
theorem snd_handing {m : Action σ α} (into : α → β) {g : Option Failure} {s : σ} :
    ((do Pure.pure (into (← m)) : Action σ β) g s).2 = (m g s).2 := by
  rw [run_bind]
  generalize m g s = x
  obtain ⟨f | a, s'⟩ := x
  · rfl
  · rfl

/-- What follows two runs that end the same ends the same. -/
theorem run_bind_congr {m m' : Action σ α} {g : Option Failure} {s s' : σ} (h : m g s = m' g s')
    (k : α → Action σ β) : (m >>= k) g s = (m' >>= k) g s' := by
  rw [run_bind, run_bind, h]

/-- Cleaning up changes nothing of an outcome if it does not fail. -/
theorem run_ensure_of_ok {m : Action σ α} {cleanup : Action σ Unit} {g : Option Failure}
    {s s' s'' : σ} {r : Except Failure α} (h : m g s = (r, s'))
    (hclean : ∀ g', cleanup g' s' = (.ok (), s'')) : m.ensure cleanup g s = (r, s'') := by
  cases r with
  | ok a => rw [run_ensure_ok h, hclean]
  | error f => rw [run_ensure_error h, hclean]

/-- A change of the state that follows an action on every path. -/
theorem run_ensure_modify (m : Action σ α) (f : σ → σ) (g : Option Failure) (s : σ) :
    m.ensure (.modify f) g s = ((m g s).1, f (m g s).2) :=
  run_ensure_of_ok (r := (m g s).1) rfl fun _ => rfl

/-- Ends that are alike fail with the same failure or with none. -/
theorem EndsAlike.error_iff {S : σ → τ → Prop} {R : α → β → Prop} {x : Except Failure α × σ}
    {y : Except Failure β × τ} (h : EndsAlike S R x y) (f : Failure) :
    x.1 = .error f ↔ y.1 = .error f := by
  cases h with
  | ok _ _ => exact ⟨nofun, nofun⟩
  | error _ =>
      constructor
      all_goals
        rintro ⟨⟩
        rfl

/-- Ends that are alike, with values that are the same. -/
theorem EndsAlike.fst {S : σ → τ → Prop} {x : Except Failure α × σ} {y : Except Failure α × τ}
    (h : EndsAlike S Eq x y) : x.1 = y.1 := by
  cases h with
  | ok hab _ => rw [hab]
  | error _ => rfl

/-- Ends that are alike have states that are related. -/
theorem EndsAlike.snd {S : σ → τ → Prop} {R : α → β → Prop} {x : Except Failure α × σ}
    {y : Except Failure β × τ} (h : EndsAlike S R x y) : S x.2 y.2 := by
  cases h with
  | ok _ hs => exact hs
  | error hs => exact hs

end ServiceClient.Action

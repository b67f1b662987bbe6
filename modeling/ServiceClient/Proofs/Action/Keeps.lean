/-
**Actions that keep an invariant.**

An action keeps what holds of the state if that still holds afterwards, also after a failure.  Every
way to build an action respects this, and an action on a part of the state keeps whatever replacing
the part keeps.

Main definitions:

* `ServiceClient.Action.Keeps`: actions that keep an invariant.

Main results:

* `ServiceClient.Action.Keeps.bind`, `ServiceClient.Action.Keeps.rescue`,
  `ServiceClient.Action.Keeps.ensure`: what is built from actions that keep an invariant keeps it;
* `ServiceClient.Action.Keeps.within`, `ServiceClient.Action.Keeps.within_of`: actions on a part;
* `ServiceClient.Action.keeps_of_alike`: what is alike to itself along an invariant keeps it.
-/

import ServiceClient.Proofs.Action.Alike

set_option autoImplicit false

namespace ServiceClient.Action

variable {σ τ α β : Type}

/-- The action keeps what holds of the state. -/
def Keeps (I : σ → Prop) (m : Action σ α) : Prop :=
  ∀ g s, I s → I (m g s).2

/-- A state beside itself, as long as the invariant holds. -/
def Along (I : σ → Prop) (s t : σ) : Prop :=
  s = t ∧ I s

variable {I : σ → Prop}

namespace Keeps

theorem pure (a : α) : Keeps I (Pure.pure a : Action σ α) :=
  fun _ _ hs => hs

theorem gets (f : σ → α) : Keeps I (Action.gets f) :=
  fun _ _ hs => hs

theorem modify {f : σ → σ} (h : ∀ s, I s → I (f s)) : Keeps I (Action.modify f) :=
  fun _ s hs => h s hs

theorem raise (f : Failure) : Keeps I (Action.raise f : Action σ α) :=
  fun _ _ hs => hs

theorem raiseFrom (e : ClientError) (f : Failure) : Keeps I (Action.raiseFrom e f : Action σ α) :=
  fun _ _ hs => hs

theorem rethrow (f : Failure) : Keeps I (Action.rethrow f : Action σ α) :=
  fun _ _ hs => hs

theorem bind {m : Action σ α} {k : α → Action σ β} (hm : Keeps I m) (hk : ∀ a, Keeps I (k a)) :
    Keeps I (m >>= k) := by
  intro g s hs
  have h := hm g s hs
  rw [run_bind]
  generalize m g s = x at h ⊢
  obtain ⟨f | a, s'⟩ := x
  · exact h
  · exact hk a g s' h

theorem rescue {m : Action σ α} {k : Failure → Action σ α} (hm : Keeps I m)
    (hk : ∀ f, Keeps I (k f)) : Keeps I (m.rescue k) := by
  intro g s hs
  have h := hm g s hs
  simp only [Action.rescue]
  generalize m g s = x at h ⊢
  obtain ⟨f | a, s'⟩ := x
  · exact hk f (some f) s' h
  · exact h

theorem ensure {m : Action σ α} {c : Action σ Unit} (hm : Keeps I m) (hc : Keeps I c) :
    Keeps I (m.ensure c) := by
  intro g s hs
  have h := hm g s hs
  simp only [Action.ensure]
  generalize m g s = x at h ⊢
  -- whatever came before, cleaning up starts where the invariant holds
  obtain ⟨f | a, s'⟩ := x
  · have hend := hc (some f) s' h
    simp only
    generalize c (some f) s' = y at hend ⊢
    obtain ⟨f' | u, s''⟩ := y <;> exact hend
  · have hend := hc g s' h
    simp only
    generalize c g s' = y at hend ⊢
    obtain ⟨f' | u, s''⟩ := y <;> exact hend

/-- An action on a part keeps what does not depend on the part. -/
theorem within {part : Part σ τ} (h : ∀ s p, I s → I (part.set p s)) (m : Action τ α) :
    Keeps I (m.within part) :=
  fun _ s hs => h s _ hs

/-- An action on a part keeps what is said of the part, if it keeps that as an action. -/
theorem within_of {J : τ → Prop} {part : Part σ τ} {m : Action τ α} (hm : Keeps J m)
    (hget : ∀ s, I s → J (part.get s)) (hset : ∀ s p, I s → J p → I (part.set p s)) :
    Keeps I (m.within part) :=
  fun g s hs => hset s _ hs (hm g _ (hget s hs))

/-- An action that keeps an invariant is like itself along the invariant. -/
theorem alike {m : Action σ α} (h : Keeps I m) : Alike (Along I) Eq m m := by
  rintro g s _ ⟨rfl, hs⟩
  exact .of_eq rfl ⟨rfl, h g s hs⟩

end Keeps

/-- What is like itself along an invariant keeps it. -/
theorem keeps_of_alike {R : α → α → Prop} {m : Action σ α} (h : Alike (Along I) R m m) :
    Keeps I m := by
  intro g s hs
  have hend := h g s s ⟨rfl, hs⟩
  generalize m g s = x at hend ⊢
  cases hend with
  | ok _ h' => exact h'.2
  | error h' => exact h'.2

end ServiceClient.Action

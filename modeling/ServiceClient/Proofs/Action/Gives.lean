/-
**What an action comes to.**

An action *gives* an outcome if it always comes to it: to the one value, or to failures that all
tell of the one fault.  What stands behind a fault depends on what is in flight, so it is no part of
the outcome.  What never fails may come before, and clean up afterwards, without a change to the
outcome.

Main definitions:

* `ServiceClient.Action.Never`: the postcondition of what never fails;
* `ServiceClient.Action.Gives`: an action that comes to an outcome and leads to a condition.

Main results:

* `ServiceClient.Action.Gives.run`: the outcome of a run;
* `ServiceClient.Action.Gives.after`, `ServiceClient.Action.Gives.ensure`: what never fails before
  it and after it.
-/

import ServiceClient.Proofs.Action.Meets

set_option autoImplicit false

namespace ServiceClient.Action

variable {σ α β : Type}

/-- No state follows a failure. -/
def Never (_ : Failure) (_ : σ) : Prop := False

/-- From states with `P` the action comes to an outcome, in states with `Q`. -/
def Gives (P : σ → Prop) (m : Action σ α) (r : Except Fault α) (Q : σ → Prop) : Prop :=
  Meets P m (fun a s => r = .ok a ∧ Q s) fun f s => r = .error f.fault ∧ Q s

variable {P Q R : σ → Prop} {m : Action σ α} {r : Except Fault α}

namespace Meets

variable {A : α → σ → Prop} {E : Failure → σ → Prop}

/-- What never fails fails in any way. -/
theorem of_never (h : Meets P m A Never) : Meets P m A E :=
  h.weaken (fun _ hs => hs) (fun _ _ hs => hs) fun _ _ => False.elim

/-- What never fails needs no handler. -/
theorem rescue_of_never (h : Meets P m A Never) (k : Failure → Action σ α) :
    Meets P (m.rescue k) A E :=
  h.rescue fun _ _ _ => False.elim

end Meets

namespace Gives

/-- The outcome of a run. -/
theorem run (h : Gives P m r Q) (g : Option Failure) {s : σ} (hs : P s) :
    (m g s).1.mapError Failure.fault = r ∧ Q (m g s).2 := by
  have hend := h g s hs
  generalize m g s = x at hend ⊢
  cases hend with
  | ok h => exact ⟨h.1.symm, h.2⟩
  | error h => exact ⟨h.1.symm, h.2⟩

theorem pure {a : α} (h : ∀ s, P s → Q s) : Gives P (Pure.pure a) (.ok a) Q :=
  Meets.pure fun s hs => ⟨rfl, h s hs⟩

theorem raise {f : Failure} (h : ∀ s, P s → Q s) :
    Gives P (Action.raise f : Action σ α) (.error f.fault) Q :=
  Meets.raise fun g s hs => ⟨by rw [Failure.fault_raisedDuring], h s hs⟩

/-- What never fails may come first. -/
theorem after {A : β → σ → Prop} {m : Action σ β} {k : β → Action σ α} (hm : Meets P m A Never)
    (hk : ∀ b, Gives (A b) (k b) r Q) : Gives P (m >>= k) r Q :=
  Action.Meets.bind hm.of_never hk

/-- The outcome may be put into another form. -/
theorem handing (into : α → β) (h : Gives P m r Q) :
    Gives P (do Pure.pure (into (← m))) (r.map into) Q :=
  Meets.bind (Meets.weaken h (fun _ hs => hs) (fun _ _ hs => hs) fun f s hs => by
    rw [hs.1]
    exact ⟨rfl, hs.2⟩) fun a => Meets.pure fun s hs => by
    rw [hs.1]
    exact ⟨rfl, hs.2⟩

/-- It may be put into another form twice. -/
theorem handing_map {γ : Type} {into : γ → α} {x : Except Fault γ} (next : α → β)
    (h : Gives P m (x.map into) Q) :
    Gives P (do Pure.pure (next (← m))) (x.map (next ∘ into)) Q := by
  have hboth : (x.map into).map next = x.map (next ∘ into) := (comp_map into next x).symm
  exact hboth ▸ h.handing next

/-- Cleaning up that never fails changes nothing of the outcome. -/
theorem ensure {c : Action σ Unit} (h : Gives P m r Q) (hc : Meets Q c (fun _ => R) Never) :
    Gives P (m.ensure c) r R := by
  refine Meets.ensure h (fun a => .given fun ha => ?_) fun f => .given fun hf => ?_
  · exact hc.weaken (fun _ hs => hs) (fun _ _ hs => ⟨ha, hs⟩) fun _ _ => False.elim
  · exact hc.weaken (fun _ hs => hs) (fun _ _ hs => ⟨hf, hs⟩) fun _ _ => False.elim

end Gives

end ServiceClient.Action

/-
**What an action leads to.**

An action *meets* a contract if, wherever it is started with the precondition, it ends in a value
and a state as the one postcondition says, or in a failure and a state as the other one says.  What
is in flight does not matter.  Every way to build an action has a rule; keeping an invariant is the
contract in which all three conditions are the invariant.

Main definitions:

* `ServiceClient.Action.Ends`, `ServiceClient.Action.Meets`: ends as two postconditions say, and
  actions that meet a contract.

Main results:

* `ServiceClient.Action.Meets.bind`, `ServiceClient.Action.Meets.rescue`,
  `ServiceClient.Action.Meets.ensure`: the contract of a compound action;
* `ServiceClient.Action.Meets.within`, `ServiceClient.Action.Meets.within_second`: the contract of
  an action on a part of a state.
-/

import ServiceClient.Proofs.Action.Keeps

set_option autoImplicit false

namespace ServiceClient.Action

variable {σ τ α β : Type}

/-- An end of an action, in a value or in a failure. -/
inductive Ends (Q : α → σ → Prop) (E : Failure → σ → Prop) : Except Failure α × σ → Prop
  | ok {a : α} {s : σ} : Q a s → Ends Q E (.ok a, s)
  | error {f : Failure} {s : σ} : E f s → Ends Q E (.error f, s)

/-- From states with `P` the action ends in a value with `Q` or in a failure with `E`. -/
def Meets (P : σ → Prop) (m : Action σ α) (Q : α → σ → Prop) (E : Failure → σ → Prop) : Prop :=
  ∀ g s, P s → Ends Q E (m g s)

variable {P P' : σ → Prop} {Q Q' : α → σ → Prop} {E E' : Failure → σ → Prop} {m : Action σ α}

theorem Ends.weaken {x : Except Failure α × σ} (h : Ends Q E x) (hQ : ∀ a s, Q a s → Q' a s)
    (hE : ∀ f s, E f s → E' f s) : Ends Q' E' x := by
  cases h with
  | ok h => exact .ok (hQ _ _ h)
  | error h => exact .error (hE _ _ h)

/-- What both postconditions say holds of the state. -/
theorem Ends.snd {R : σ → Prop} {x : Except Failure α × σ} (h : Ends (fun _ => R) (fun _ => R) x) :
    R x.2 := by
  cases h with
  | ok h => exact h
  | error h => exact h

/-- What is said of a value as of a failure, and of the state in both ends, holds of the end. -/
theorem Ends.both {F : Except Failure α → Prop} {R : σ → Prop} {x : Except Failure α × σ}
    (h : Ends (fun a s => F (.ok a) ∧ R s) (fun f s => F (.error f) ∧ R s) x) :
    F x.1 ∧ R x.2 := by
  cases h with
  | ok h => exact h
  | error h => exact h

namespace Meets

theorem weaken (h : Meets P m Q E) (hP : ∀ s, P' s → P s) (hQ : ∀ a s, Q a s → Q' a s)
    (hE : ∀ f s, E f s → E' f s) : Meets P' m Q' E' :=
  fun g s hs => (h g s (hP s hs)).weaken hQ hE

/-- What does not depend on the state may be taken out of the precondition. -/
theorem given {p : Prop} (h : p → Meets P m Q E) : Meets (fun s => p ∧ P s) m Q E :=
  fun g s hs => h hs.1 g s hs.2

/-- Every action ends. -/
theorem trivial (m : Action σ α) : Meets (fun _ => True) m (fun _ _ => True) fun _ _ => True := by
  intro g s _
  generalize m g s = x
  obtain ⟨f | a, s'⟩ := x
  · exact .error True.intro
  · exact .ok True.intro

theorem pure {a : α} (h : ∀ s, P s → Q a s) : Meets P (Pure.pure a : Action σ α) Q E :=
  fun _ s hs => .ok (h s hs)

theorem gets {f : σ → α} (h : ∀ s, P s → Q (f s) s) : Meets P (Action.gets f) Q E :=
  fun _ s hs => .ok (h s hs)

theorem modify {f : σ → σ} {Q : Unit → σ → Prop} (h : ∀ s, P s → Q () (f s)) :
    Meets P (Action.modify f) Q E :=
  fun _ s hs => .ok (h s hs)

theorem raise {f : Failure} (h : ∀ g s, P s → E (f.raisedDuring g) s) :
    Meets P (Action.raise f : Action σ α) Q E :=
  fun g s hs => .error (h g s hs)

theorem raiseFrom {e : ClientError} {f : Failure} (h : ∀ s, P s → E (.of e f) s) :
    Meets P (Action.raiseFrom e f : Action σ α) Q E :=
  fun _ s hs => .error (h s hs)

theorem rethrow {f : Failure} (h : ∀ s, P s → E f s) :
    Meets P (Action.rethrow f : Action σ α) Q E :=
  fun _ s hs => .error (h s hs)

theorem strike {slot : σ → Option Failure} {keep : Failure → σ → σ} {Q : Unit → σ → Prop}
    (hnone : ∀ s, P s → Q () s)
    (hsome : ∀ g s f, P s → slot s = some f → E (f.raisedDuring g) (keep (f.raisedDuring g) s)) :
    Meets P (Action.strike slot keep) Q E := by
  intro g s hs
  simp only [Action.strike]
  cases hslot : slot s with
  | none => exact .ok (hnone s hs)
  | some f => exact .error (hsome g s f hs hslot)

theorem bind {k : α → Action σ β} {R : β → σ → Prop} (hm : Meets P m Q E)
    (hk : ∀ a, Meets (Q a) (k a) R E) : Meets P (m >>= k) R E := by
  intro g s hs
  have h := hm g s hs
  rw [run_bind]
  generalize m g s = x at h ⊢
  cases h with
  | ok h => exact hk _ g _ h
  | error h => exact .error h

theorem rescue {k : Failure → Action σ α} (hm : Meets P m Q E)
    (hk : ∀ f, Meets (E f) (k f) Q E') : Meets P (m.rescue k) Q E' := by
  intro g s hs
  have h := hm g s hs
  simp only [Action.rescue]
  generalize m g s = x at h ⊢
  cases h with
  | ok h => exact .ok h
  | error h => exact hk _ _ _ h

/-- Cleaning up starts from either end; where it succeeds, that end stays. -/
theorem ensure {c : Action σ Unit} (hm : Meets P m Q E)
    (hok : ∀ a, Meets (Q a) c (fun _ => Q' a) E') (herror : ∀ f, Meets (E f) c (fun _ => E' f) E') :
    Meets P (m.ensure c) Q' E' := by
  intro g s hs
  have h := hm g s hs
  simp only [Action.ensure]
  generalize m g s = x at h ⊢
  cases h with
  | @ok a s' h =>
      have h' := hok a g s' h
      simp only
      generalize c g s' = y at h' ⊢
      cases h' with
      | ok h' => exact .ok h'
      | error h' => exact .error h'
  | @error f s' h =>
      have h' := herror f (some f) s' h
      simp only
      generalize c (some f) s' = y at h' ⊢
      cases h' with
      | ok h' => exact .error h'
      | error h' => exact .error h'

/-- What is said of every failure stays said, whichever failure counts. -/
theorem ensure_all {c : Action σ Unit} {F : Failure → Prop} {R R' : σ → Prop}
    (hm : Meets P m Q fun f s => F f ∧ R s)
    (hok : ∀ a, Meets (Q a) c (fun _ => Q' a) fun f s => F f ∧ R' s)
    (herror : Meets R c (fun _ => R') fun f s => F f ∧ R' s) :
    Meets P (m.ensure c) Q' fun f s => F f ∧ R' s :=
  hm.ensure hok fun _ => .given fun hf =>
    herror.weaken (fun _ hs => hs) (fun _ _ hs => ⟨hf, hs⟩) fun _ _ hs => hs

/-- What an action gives may be put into another form. -/
theorem handing {into : α → β} {R : β → σ → Prop} (hm : Meets P m Q E)
    (h : ∀ a s, Q a s → R (into a) s) : Meets P (do Pure.pure (into (← m))) R E :=
  hm.bind fun a => .pure (h a)

/-- An action on a part meets what it meets as an action, in states that have the part. -/
theorem within {part : Part τ σ} {V : τ → Prop}
    (hget : ∀ t s, V t → part.get (part.set s t) = s) (hset : ∀ t s, V t → V (part.set s t))
    (hm : Meets P m Q E) :
    Meets (fun t => V t ∧ P (part.get t)) (m.within part) (fun a t => V t ∧ Q a (part.get t))
      fun f t => V t ∧ E f (part.get t) := by
  rintro g t ⟨hV, hP⟩
  have h := hm g _ hP
  simp only [Action.within]
  generalize m g (part.get t) = x at h ⊢
  cases h with
  | ok h => exact .ok ⟨hset t _ hV, (hget t _ hV).symm ▸ h⟩
  | error h => exact .error ⟨hset t _ hV, (hget t _ hV).symm ▸ h⟩

/-- The same for a part that every state has. -/
theorem within_all (part : Part τ σ) (hget : ∀ t s, part.get (part.set s t) = s)
    (hm : Meets P m Q E) :
    Meets (fun t => P (part.get t)) (m.within part) (fun a t => Q a (part.get t))
      fun f t => E f (part.get t) :=
  (hm.within (fun t s (_ : True) => hget t s) fun _ _ _ => True.intro).weaken
    (fun _ hp => ⟨True.intro, hp⟩) (fun _ _ hp => hp.2) fun _ _ hp => hp.2

/-- An action beside something else meets what it meets alone. -/
theorem within_second (hm : Meets P m Q E) :
    Meets (fun p : β × σ => P p.2) (m.within .second) (fun a p => Q a p.2) fun f p => E f p.2 :=
  hm.within_all .second fun _ _ => rfl

end Meets

/-- Keeping an invariant is a contract. -/
theorem Keeps.meets {I : σ → Prop} (h : Keeps I m) : Meets I m (fun _ => I) fun _ => I := by
  intro g s hs
  have hend := h g s hs
  generalize m g s = x at hend ⊢
  obtain ⟨f | a, s'⟩ := x
  · exact .error hend
  · exact .ok hend

end ServiceClient.Action

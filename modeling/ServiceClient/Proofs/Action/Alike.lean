/-
**Actions that do the same over different states.**

Two actions over different states are *alike* along a relation of the states if, started in related
states, they end in related states, both with related values or both with the same failure.  Every
way to build an action respects this.

Main definitions:

* `ServiceClient.Action.EndsAlike`, `ServiceClient.Action.Alike`: ends that are related, and actions
  that are alike along a relation of their states.

Main results:

* `ServiceClient.Action.Alike.bind`, `ServiceClient.Action.Alike.rescue`,
  `ServiceClient.Action.Alike.ensure`: what is built from actions that are alike is alike;
* `ServiceClient.Action.Alike.within`: actions that are alike are so on parts of larger states;
* `ServiceClient.Action.within_alike`: an action on a part of a state is like the action.
-/

import ServiceClient.Action

set_option autoImplicit false

namespace ServiceClient

variable {σ τ α β γ δ : Type}

/-! ### Actions -/

namespace Action

/-- Two ends of actions: related values or the same failure, and related states. -/
inductive EndsAlike (S : σ → τ → Prop) (R : α → β → Prop) :
    Except Failure α × σ → Except Failure β × τ → Prop
  | ok {a : α} {b : β} {s : σ} {t : τ} : R a b → S s t → EndsAlike S R (.ok a, s) (.ok b, t)
  | error {f : Failure} {s : σ} {t : τ} : S s t → EndsAlike S R (.error f, s) (.error f, t)

/-- From related states the two actions end alike, whatever is in flight. -/
def Alike (S : σ → τ → Prop) (R : α → β → Prop) (m : Action σ α) (m' : Action τ β) : Prop :=
  ∀ g s t, S s t → EndsAlike S R (m g s) (m' g t)

variable {S : σ → τ → Prop} {R : α → β → Prop} {Q : γ → δ → Prop}

/-- Ends with the same outcome in related states. -/
theorem EndsAlike.of_eq {x : Except Failure α × σ} {y : Except Failure α × τ} (h : x.1 = y.1)
    (hs : S x.2 y.2) : EndsAlike S Eq x y := by
  obtain ⟨r, s⟩ := x
  obtain ⟨r', t⟩ := y
  obtain rfl : r = r' := h
  cases r with
  | error f => exact .error hs
  | ok a => exact .ok rfl hs

/-- What the values have in common may be said more weakly. -/
theorem Alike.weaken {P : α → β → Prop} {m : Action σ α} {m' : Action τ β} (h : Alike S R m m')
    (hP : ∀ a b, R a b → P a b) : Alike S P m m' := by
  intro g s t hs
  have hend := h g s t hs
  generalize m g s = x at hend ⊢
  generalize m' g t = y at hend ⊢
  cases hend with
  | ok hab hs' => exact .ok (hP _ _ hab) hs'
  | error hs' => exact .error hs'

/-- Every action is like itself. -/
theorem Alike.refl (m : Action σ α) : Alike Eq Eq m m := by
  rintro g s _ rfl
  exact .of_eq rfl rfl

theorem Alike.pure {a : α} {b : β} (h : R a b) :
    Alike S R (Pure.pure a : Action σ α) (Pure.pure b : Action τ β) :=
  fun _ _ _ hs => .ok h hs

theorem Alike.gets {f : σ → α} {f' : τ → β} (h : ∀ s t, S s t → R (f s) (f' t)) :
    Alike S R (Action.gets f) (Action.gets f') :=
  fun _ s t hs => .ok (h s t hs) hs

theorem Alike.modify {f : σ → σ} {f' : τ → τ} (h : ∀ s t, S s t → S (f s) (f' t)) :
    Alike S Eq (Action.modify f) (Action.modify f') :=
  fun _ s t hs => .ok rfl (h s t hs)

theorem Alike.raise (f : Failure) :
    Alike S R (Action.raise f : Action σ α) (Action.raise f : Action τ β) :=
  fun _ _ _ hs => .error hs

theorem Alike.raiseFrom (e : ClientError) (f : Failure) :
    Alike S R (Action.raiseFrom e f : Action σ α) (Action.raiseFrom e f : Action τ β) :=
  fun _ _ _ hs => .error hs

theorem Alike.rethrow (f : Failure) :
    Alike S R (Action.rethrow f : Action σ α) (Action.rethrow f : Action τ β) :=
  fun _ _ _ hs => .error hs

theorem Alike.strike {slot : σ → Option Failure} {slot' : τ → Option Failure}
    {keep : Failure → σ → σ} {keep' : Failure → τ → τ} (hslot : ∀ s t, S s t → slot s = slot' t)
    (hkeep : ∀ f s t, S s t → S (keep f s) (keep' f t)) :
    Alike S Eq (Action.strike slot keep) (Action.strike slot' keep') := by
  intro g s t hs
  simp only [Action.strike, hslot s t hs]
  cases slot' t with
  | none => exact .ok rfl hs
  | some f => exact .error (hkeep _ s t hs)

theorem Alike.bind {m : Action σ α} {m' : Action τ β} {k : α → Action σ γ} {k' : β → Action τ δ}
    (hm : Alike S R m m') (hk : ∀ a b, R a b → Alike S Q (k a) (k' b)) :
    Alike S Q (m >>= k) (m' >>= k') := by
  intro g s t hs
  have h := hm g s t hs
  rw [run_bind, run_bind]
  generalize m g s = x at h ⊢
  generalize m' g t = y at h ⊢
  cases h with
  | ok hab hs' => exact hk _ _ hab g _ _ hs'
  | error hs' => exact .error hs'

/-- A choice that falls the same way in both. -/
theorem Alike.ite {m k : Action σ α} {m' k' : Action τ β} {c c' : Prop} [Decidable c] [Decidable c']
    (h : c ↔ c') (hm : c → Alike S R m m') (hk : ¬ c → Alike S R k k') :
    Alike S R (if c then m else k) (if c' then m' else k') := by
  by_cases hc : c
  · rw [if_pos hc, if_pos (h.mp hc)]
    exact hm hc
  · rw [if_neg hc, if_neg fun hc' => hc (h.mpr hc')]
    exact hk hc

theorem Alike.rescue {m : Action σ α} {m' : Action τ β} {k : Failure → Action σ α}
    {k' : Failure → Action τ β} (hm : Alike S R m m') (hk : ∀ f, Alike S R (k f) (k' f)) :
    Alike S R (m.rescue k) (m'.rescue k') := by
  intro g s t hs
  have h := hm g s t hs
  simp only [Action.rescue]
  generalize m g s = x at h ⊢
  generalize m' g t = y at h ⊢
  cases h with
  | ok hab hs' => exact .ok hab hs'
  | error hs' => exact hk _ _ _ _ hs'

theorem Alike.ensure {m : Action σ α} {m' : Action τ β} {c : Action σ Unit} {c' : Action τ Unit}
    (hm : Alike S R m m') (hc : Alike S Eq c c') : Alike S R (m.ensure c) (m'.ensure c') := by
  intro g s t hs
  have h := hm g s t hs
  simp only [Action.ensure]
  generalize m g s = x at h ⊢
  generalize m' g t = y at h ⊢
  -- both clean up with the same failure in flight
  cases h with
  | @ok a b s' t' hab hs' =>
      have h' := hc g _ _ hs'
      simp only
      generalize c g s' = x at h' ⊢
      generalize c' g t' = y at h' ⊢
      cases h' with
      | ok _ hs'' => exact .ok hab hs''
      | error hs'' => exact .error hs''
  | @error f s' t' hs' =>
      have h' := hc (some f) _ _ hs'
      simp only
      generalize c (some f) s' = x at h' ⊢
      generalize c' (some f) t' = y at h' ⊢
      cases h' with
      | ok _ hs'' => exact .error hs''
      | error hs'' => exact .error hs''

/-- What an action hands out may be put into another form. -/
theorem Alike.handing {P : β → α → Prop} {into : α → β} {m : Action σ α} {m' : Action τ α}
    (hm : Alike S Eq m m') (hinto : ∀ a, P (into a) a) :
    Alike S P (do Pure.pure (into (← m))) m' := by
  intro g s t hs
  have h := hm g s t hs
  rw [run_bind]
  generalize m g s = x at h ⊢
  generalize m' g t = y at h ⊢
  cases h with
  | ok hab hs' =>
      subst hab
      exact .ok (hinto _) hs'
  | error hs' => exact .error hs'

/-- Actions that are alike are so on parts of larger states. -/
theorem Alike.within {υ ω : Type} {T : υ → ω → Prop} {part : Part υ σ} {part' : Part ω τ}
    {m : Action σ α} {m' : Action τ β} (hm : Alike S R m m')
    (hget : ∀ u v, T u v → S (part.get u) (part'.get v))
    (hset : ∀ u v s t, T u v → S s t → T (part.set s u) (part'.set t v)) :
    Alike T R (m.within part) (m'.within part') := by
  intro g u v ht
  have h := hm g _ _ (hget u v ht)
  simp only [Action.within]
  generalize m g (part.get u) = x at h ⊢
  generalize m' g (part'.get v) = y at h ⊢
  cases h with
  | ok hab hs => exact .ok hab (hset u v _ _ ht hs)
  | error hs => exact .error (hset u v _ _ ht hs)

/-- An action on a part of the state is like the action, as long as the part can be replaced in
`t₀` as a part can. -/
theorem within_alike {part : Part τ σ} {t₀ : τ} (hget : ∀ s, part.get (part.set s t₀) = s)
    (hset : ∀ s s', part.set s (part.set s' t₀) = part.set s t₀) (m : Action σ α) :
    Alike (fun t s => t = part.set s t₀) Eq (m.within part) m := by
  rintro g _ s rfl
  simp only [Action.within, hget, hset]
  exact .of_eq rfl rfl

end Action

end ServiceClient

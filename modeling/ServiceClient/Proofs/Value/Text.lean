/-
**Values that have a text.**

Only an integer of too many digits has no text.  A value has one if no such integer occurs in it,
at whatever depth and also among the keys of its mappings.

Main definitions:

* `ServiceClient.Value.Holds`: a value and what occurs in it;
* `ServiceClient.Value.Brief`: no integer of a value has more than 4300 digits.

Main results:

* `ServiceClient.Value.Brief.exists_text`: a value without long integers has a text.
-/

import ServiceClient.Value.Text

set_option autoImplicit false

namespace ServiceClient.Value

/-! ### What occurs in a value -/

/-- A value, and one that occurs in it. -/
inductive Holds : Value → Value → Prop
  | self (v : Value) : Holds v v
  | item {v w : Value} {items : List Value} : v ∈ items → Holds v w → Holds (.list items) w
  | member {v w : Value} {items : List Value} : v ∈ items → Holds v w → Holds (.members items) w
  | key {k v w : Value} {es : Entries} : (k, v) ∈ es → Holds k w → Holds (.mapping es) w
  | value {k v w : Value} {es : Entries} : (k, v) ∈ es → Holds v w → Holds (.mapping es) w

/-- No integer that occurs in a value has more than 4300 digits. -/
def Brief (v : Value) : Prop :=
  ∀ n : Int, v.Holds (.int n) → n.natAbs < Nat.pow 10 Text.digitLimit

theorem brief_null : Brief .null := by
  intro n h
  cases h

theorem brief_bool (b : Bool) : Brief (.bool b) := by
  intro n h
  cases h

theorem brief_text (s : String) : Brief (.text s) := by
  intro n h
  cases h

namespace Brief

variable {k v : Value} {items : List Value} {es : Entries}

theorem list (h : ∀ v ∈ items, Brief v) : Brief (.list items) := by
  intro n hn
  cases hn with
  | item hv hn => exact h _ hv n hn

theorem mapping (h : ∀ e ∈ es, Brief e.1 ∧ Brief e.2) : Brief (.mapping es) := by
  intro n hn
  cases hn with
  | key he hn => exact (h _ he).1 n hn
  | value he hn => exact (h _ he).2 n hn

theorem of_item (h : Brief (.list items)) (hv : v ∈ items) : Brief v :=
  fun n hn => h n (.item hv hn)

theorem of_member (h : Brief (.members items)) (hv : v ∈ items) : Brief v :=
  fun n hn => h n (.member hv hn)

theorem of_key (h : Brief (.mapping es)) (he : (k, v) ∈ es) : Brief k :=
  fun n hn => h n (.key he hn)

theorem of_value (h : Brief (.mapping es)) (he : (k, v) ∈ es) : Brief v :=
  fun n hn => h n (.value he hn)

end Brief

theorem exists_integerText {n : Int} (h : n.natAbs < Nat.pow 10 Text.digitLimit) :
    ∃ t, integerText? n = some t := by
  rw [integerText?, if_pos h]
  exact ⟨_, rfl⟩

/-! ### Texts -/

mutual

/-- By recursion on the value: a container has a text if all that it contains has one. -/
theorem exists_literal : (v : Value) → Brief v → ∃ t, v.literal? = some t
  | .null, _ => ⟨_, rfl⟩
  | .bool _, _ => ⟨_, rfl⟩
  | .int n, h => exists_integerText (h n (.self _))
  | .float _, _ => ⟨_, rfl⟩
  | .text _, _ => ⟨_, rfl⟩
  | .bytes _, _ => ⟨_, rfl⟩
  | .moment _, _ => ⟨_, rfl⟩
  | .list items, h => by
      obtain ⟨ts, hts⟩ := exists_itemLiterals items fun v hv => h.of_item hv
      exact ⟨_, by rw [literal?, hts]; rfl⟩
  | .members items, h => by
      obtain ⟨ts, hts⟩ := exists_itemLiterals items fun v hv => h.of_member hv
      rw [literal?]
      split
      · exact ⟨_, rfl⟩
      · exact ⟨_, by rw [hts]; rfl⟩
  | .mapping es, h => by
      obtain ⟨ts, hts⟩ := exists_entryLiterals es fun k v he => ⟨h.of_key he, h.of_value he⟩
      exact ⟨_, by rw [literal?, hts]; rfl⟩

theorem exists_itemLiterals : (items : List Value) → (∀ v ∈ items, Brief v) →
    ∃ ts, itemLiterals? items = some ts
  | [], _ => ⟨_, rfl⟩
  | v :: rest, h => by
      obtain ⟨t, ht⟩ := exists_literal v (h v (.head _))
      obtain ⟨ts, hts⟩ := exists_itemLiterals rest fun w hw => h w (.tail _ hw)
      exact ⟨t :: ts, by rw [itemLiterals?, ht, hts]⟩

theorem exists_entryLiterals : (es : Entries) → (∀ k v, (k, v) ∈ es → Brief k ∧ Brief v) →
    ∃ ts, entryLiterals? es = some ts
  | [], _ => ⟨_, rfl⟩
  | e :: rest, h => by
      obtain ⟨t, ht⟩ := exists_entryLiteral e (h e.1 e.2 (.head _))
      obtain ⟨ts, hts⟩ := exists_entryLiterals rest fun k v he => h k v (.tail _ he)
      exact ⟨t :: ts, by rw [entryLiterals?, ht, hts]⟩

theorem exists_entryLiteral : (e : Value × Value) → Brief e.1 ∧ Brief e.2 →
    ∃ t, entryLiteral? e = some t
  | (k, v), h => by
      obtain ⟨s, hs⟩ := exists_literal k h.1
      obtain ⟨t, ht⟩ := exists_literal v h.2
      exact ⟨_, by rw [entryLiteral?, hs, ht]⟩

end

/-- A value without long integers has a text. -/
theorem Brief.exists_text {v : Value} (h : Brief v) : ∃ t, v.text? = some t := by
  cases v with
  | text s => exact ⟨s, rfl⟩
  | moment m => exact ⟨m.text, rfl⟩
  | _ => exact exists_literal _ h

end ServiceClient.Value

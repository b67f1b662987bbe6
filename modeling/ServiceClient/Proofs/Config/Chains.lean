/-
**Chains of references.**

A placeholder of a text leads to the text of the value that it refers to, as long as no variable of
that name hides it.  Following placeholders from text to text makes a chain.  A chain that comes
back to one of its references can be followed for ever.

Main definitions:

* `ServiceClient.Config.textAt`: the text of the value at a key;
* `ServiceClient.Config.Leads`, `ServiceClient.Config.Chain`: a reference of a text, and a chain of
  references, each in the text that the one before leads to.

Main results:

* `ServiceClient.Config.exists_textAt`: without long integers every value that is not null has a
  text;
* `ServiceClient.Config.exists_longer_chain`: **a chain that comes back to a reference goes on for
  ever**.
-/

import ServiceClient.Config
import ServiceClient.Proofs.Config.Template
import ServiceClient.Proofs.Value.Names
import ServiceClient.Proofs.Value.Text

set_option autoImplicit false

namespace ServiceClient.Config

open ServiceClient.Template (Placeholder Reads pieces reads_iff)

variable {c : Config} {env : Environment}

/-! ### Texts of values -/

/-- The text of the value at a key; there is none if the value is null. -/
def textAt (c : Config) (key : String) : Option String :=
  match c.lookup key with
  | .null => none
  | v => v.text?

theorem textAt_of_null {key : String} (h : c.lookup key = .null) : c.textAt key = none := by
  rw [textAt, h]

theorem textAt_of_ne_null {key : String} (h : c.lookup key ≠ .null) :
    c.textAt key = (c.lookup key).text? := by
  unfold textAt
  split
  · rename_i hnull
    exact absurd hnull h
  · rfl

theorem ne_null_of_textAt {key text : String} (h : c.textAt key = some text) :
    c.lookup key ≠ .null := by
  intro hnull
  rw [textAt_of_null hnull] at h
  cases h

theorem brief_child {v : Value} (h : v.Brief) (name : String) : (child v name).Brief := by
  cases hfind : Value.find? (.text name) v.entries with
  | none =>
      rw [child, hfind]
      exact Value.brief_null
  | some w =>
      rw [child, hfind]
      -- only a mapping has entries
      cases v with
      | mapping es => exact h.of_value (Value.mem_of_find? hfind)
      | _ => cases hfind

theorem brief_lookup (h : c.data.Brief) (key : String) : (c.lookup key).Brief := by
  unfold lookup
  generalize c.data = v at h
  induction names key generalizing v with
  | nil => exact h
  | cons name rest ih => exact ih _ (brief_child h name)

/-- Without long integers every value that is not null has a text. -/
theorem exists_textAt (hdata : c.data.Brief) {key : String} (h : c.lookup key ≠ .null) :
    ∃ text, c.textAt key = some text := by
  rw [textAt_of_ne_null h]
  exact (brief_lookup hdata key).exists_text

/-! ### Chains of references -/

/-- A placeholder that is read in a text. -/
def Meets (text : String) (p : Placeholder) : Prop :=
  ':' ∉ p.reference.toList ∧ ∃ ps, Reads text.toList ps ∧ .placeholder p.inner ∈ ps

/-- A reference of a text that no variable hides, and the text of the value that it leads to. -/
def Leads (c : Config) (env : Environment) (text reference next : String) : Prop :=
  (∃ p, Meets text p ∧ p.reference = reference) ∧ env.get? reference = none ∧
    c.textAt reference = some next

/-- References, each in the text that the one before it leads to, from a first text to a last. -/
inductive Chain (c : Config) (env : Environment) : String → List String → String → Prop
  | nil (text : String) : Chain c env text [] text
  | cons {text reference next last : String} {references : List String} :
      c.Leads env text reference next → Chain c env next references last →
      Chain c env text (reference :: references) last

theorem meets_iff {text : String} {p : Placeholder} :
    Meets text p ↔ ':' ∉ p.reference.toList ∧ .placeholder p.inner ∈ pieces text.toList := by
  constructor
  · rintro ⟨hcolon, ps, hreads, hmem⟩
    exact ⟨hcolon, reads_iff.mp hreads ▸ hmem⟩
  · rintro ⟨hcolon, hmem⟩
    exact ⟨hcolon, _, reads_iff.mpr rfl, hmem⟩

theorem meets_ofInner {text : String} {inner : List Char}
    (h : .placeholder inner ∈ pieces text.toList) : Meets text (Placeholder.ofInner inner) :=
  meets_iff.mpr ⟨Placeholder.colon_notMem_reference inner, by
    rwa [Placeholder.inner_ofInner]⟩

namespace Chain

variable {text middle last reference : String} {references more : List String}

theorem append (h : c.Chain env text references middle) (h' : c.Chain env middle more last) :
    c.Chain env text (references ++ more) last := by
  induction h with
  | nil => exact h'
  | cons hleads _ ih => exact .cons hleads (ih h')

/-- A chain may end at any of its references. -/
theorem upTo (h : c.Chain env text references last) (hmem : reference ∈ references) :
    ∃ before next, before ≠ [] ∧ c.textAt reference = some next ∧
      c.Chain env text before next := by
  induction h with
  | nil => cases hmem
  | @cons text r next last rs hleads hchain ih =>
      rcases List.mem_cons.mp hmem with rfl | hmem
      · exact ⟨[reference], next, by simp, hleads.2.2, .cons hleads (.nil next)⟩
      · obtain ⟨before, next', -, htext, hbefore⟩ := ih hmem
        exact ⟨r :: before, next', by simp, htext, .cons hleads hbefore⟩

/-- A chain that comes back to its beginning can be gone through any number of times. -/
theorem exists_round (h : c.Chain env text references text) (hne : references ≠ []) (n : Nat) :
    ∃ longer, n < longer.length ∧ c.Chain env text longer text := by
  induction n with
  | zero => exact ⟨references, List.length_pos_iff.mpr hne, h⟩
  | succ n ih =>
      obtain ⟨longer, hlength, hlonger⟩ := ih
      refine ⟨references ++ longer, ?_, h.append hlonger⟩
      have hpos := List.length_pos_iff.mpr hne
      rw [List.length_append]
      omega

end Chain

/-- **A chain that comes back to a reference goes on for ever.** -/
theorem exists_longer_chain {text last : String} {references : List String}
    (h : c.Chain env text references last) (hrepeat : ¬ references.Nodup) (n : Nat) :
    ∃ longer last', n < longer.length ∧ c.Chain env text longer last' := by
  induction h with
  | nil => exact absurd List.nodup_nil hrepeat
  | @cons text r next last rs hleads hchain ih =>
      by_cases hmem : r ∈ rs
      · -- the rest of the chain leads to the text of `r` again, where it started
        obtain ⟨before, next', hne, htext, hround⟩ := hchain.upTo hmem
        obtain rfl : next' = next := Option.some.inj (htext.symm.trans hleads.2.2)
        obtain ⟨longer, hlength, hlonger⟩ := hround.exists_round hne n
        refine ⟨r :: longer, next', ?_, .cons hleads hlonger⟩
        rw [List.length_cons]
        omega
      · have hrest : ¬ rs.Nodup := fun hnodup => hrepeat (List.nodup_cons.mpr ⟨hmem, hnodup⟩)
        obtain ⟨longer, last', hlength, hlonger⟩ := ih hrest
        refine ⟨r :: longer, last', ?_, .cons hleads hlonger⟩
        rw [List.length_cons]
        omega

end ServiceClient.Config

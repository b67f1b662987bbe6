/-
**Placeholders without a bound.**

Resolving a text counts how far placeholders lead from one text to the next, and stops when it is
too far.  Substitution knows no such bound: a placeholder stands for its variable, or for what the
text of its value comes to, or for its fallback.  The two agree as far as the bound reaches.  Where
the placeholders lead back to a reference they never end, so the bound is met and resolving fails.

Main definitions:

* `ServiceClient.Config.Expands`, `ServiceClient.Config.Substitutes`: substitution without a bound.

Main results:

* `ServiceClient.Config.Expands.unique`: substitution has one outcome;
* `ServiceClient.Config.exists_error_of_chain`: a chain beyond the bound makes resolving fail;
* `ServiceClient.Config.exists_substitutes`: within the bound, resolving substitutes;
* `ServiceClient.Config.get_template`: **the value at a key is the text after substitution, and a
  failure where placeholders come back to a reference**.
-/

import ServiceClient.Proofs.Config.Chains

set_option autoImplicit false

namespace ServiceClient.Config

open ServiceClient.Template (Piece Placeholder Reads pieces mayHold reads_iff)

variable {c : Config} {env : Environment}

/-! ### Substitution without a bound -/

/-- What the pieces of a text come to. -/
inductive Expands (c : Config) (env : Environment) : List Piece → List Char → Prop
  | nil : Expands c env [] []
  /-- What stands outside of placeholders is kept. -/
  | char {ch : Char} {ps : List Piece} {out : List Char} :
      Expands c env ps out → Expands c env (.char ch :: ps) (ch :: out)
  /-- The value of a variable is taken as it is. -/
  | fromVariable {p : Placeholder} {inner : List Char} {ps : List Piece} {text : String}
      {out : List Char} :
      inner = p.inner → ':' ∉ p.reference.toList → env.get? p.reference = some text →
      Expands c env ps out → Expands c env (.placeholder inner :: ps) (text.toList ++ out)
  /-- The text of a value is expanded in turn. -/
  | fromValue {p : Placeholder} {inner : List Char} {ps qs : List Piece} {text : String}
      {sub out : List Char} :
      inner = p.inner → ':' ∉ p.reference.toList → env.get? p.reference = none →
      c.textAt p.reference = some text → Reads text.toList qs → Expands c env qs sub →
      Expands c env ps out → Expands c env (.placeholder inner :: ps) (sub ++ out)
  /-- A fallback is taken as it is. -/
  | fromFallback {p : Placeholder} {inner : List Char} {ps : List Piece} {text : String}
      {out : List Char} :
      inner = p.inner → ':' ∉ p.reference.toList → env.get? p.reference = none →
      c.lookup p.reference = .null → p.fallback = some text →
      Expands c env ps out → Expands c env (.placeholder inner :: ps) (text.toList ++ out)

/-- A text, and what it comes to when its placeholders are replaced. -/
def Substitutes (c : Config) (env : Environment) (text out : String) : Prop :=
  ∃ ps, Reads text.toList ps ∧ c.Expands env ps out.toList

namespace Expands

/-- What stands between two braces names one reference and one fallback. -/
theorem inner_inj {p q : Placeholder} (hp : ':' ∉ p.reference.toList)
    (hq : ':' ∉ q.reference.toList) (h : p.inner = q.inner) : p = q := by
  rw [← Placeholder.ofInner_inner hp, ← Placeholder.ofInner_inner hq, h]

/-- **Substitution has one outcome.** -/
theorem unique {ps : List Piece} {out other : List Char} (h : c.Expands env ps out)
    (h' : c.Expands env ps other) : out = other := by
  -- by induction on how the first outcome came about; the second came about in the same way
  induction h generalizing other with
  | nil =>
      cases h'
      rfl
  | char _ ih =>
      cases h' with
      | char hrest => rw [ih hrest]
  | fromVariable hinner hcolon hvar _ ih =>
      cases h' with
      | fromVariable hinner' hcolon' hvar' hrest =>
          obtain rfl := inner_inj hcolon hcolon' (hinner.symm.trans hinner')
          obtain rfl := Option.some.inj (hvar.symm.trans hvar')
          rw [ih hrest]
      | fromValue hinner' hcolon' hvar' =>
          obtain rfl := inner_inj hcolon hcolon' (hinner.symm.trans hinner')
          rw [hvar] at hvar'
          cases hvar'
      | fromFallback hinner' hcolon' hvar' =>
          obtain rfl := inner_inj hcolon hcolon' (hinner.symm.trans hinner')
          rw [hvar] at hvar'
          cases hvar'
  | fromValue hinner hcolon hvar htext hreads _ _ ihsub ih =>
      cases h' with
      | fromVariable hinner' hcolon' hvar' =>
          obtain rfl := inner_inj hcolon hcolon' (hinner.symm.trans hinner')
          rw [hvar] at hvar'
          cases hvar'
      | fromValue hinner' hcolon' _ htext' hreads' hsub' hrest =>
          obtain rfl := inner_inj hcolon hcolon' (hinner.symm.trans hinner')
          obtain rfl := Option.some.inj (htext.symm.trans htext')
          obtain rfl := (reads_iff.mp hreads).trans (reads_iff.mp hreads').symm
          rw [ihsub hsub', ih hrest]
      | fromFallback hinner' hcolon' _ hnull =>
          obtain rfl := inner_inj hcolon hcolon' (hinner.symm.trans hinner')
          exact absurd hnull (ne_null_of_textAt htext)
  | fromFallback hinner hcolon hvar hnull hfall _ ih =>
      cases h' with
      | fromVariable hinner' hcolon' hvar' =>
          obtain rfl := inner_inj hcolon hcolon' (hinner.symm.trans hinner')
          rw [hvar] at hvar'
          cases hvar'
      | fromValue hinner' hcolon' _ htext =>
          obtain rfl := inner_inj hcolon hcolon' (hinner.symm.trans hinner')
          exact absurd hnull (ne_null_of_textAt htext)
      | fromFallback hinner' hcolon' _ _ hfall' hrest =>
          obtain rfl := inner_inj hcolon hcolon' (hinner.symm.trans hinner')
          obtain rfl := Option.some.inj (hfall.symm.trans hfall')
          rw [ih hrest]

/-- Characters come to themselves. -/
theorem chars (cs : List Char) : c.Expands env (cs.map .char) cs := by
  induction cs with
  | nil => exact .nil
  | cons ch cs ih => exact .char ih

end Expands

theorem Substitutes.unique {text out other : String} (h : c.Substitutes env text out)
    (h' : c.Substitutes env text other) : out = other := by
  obtain ⟨ps, hps, hout⟩ := h
  obtain ⟨qs, hqs, hother⟩ := h'
  obtain rfl := (reads_iff.mp hps).trans (reads_iff.mp hqs).symm
  exact String.toList_inj.mp (hout.unique hother)

/-- A text that cannot hold a placeholder comes to itself. -/
theorem substitutes_self {text : String} (h : mayHold text.toList = false) :
    c.Substitutes env text text := by
  refine ⟨_, reads_iff.mpr rfl, ?_⟩
  rw [Template.pieces_of_mayHold h]
  exact Expands.chars _

/-! ### Resolving, one text at a time -/

/-- What a piece of a text is replaced by, where `expand` resolves the text of a value. -/
def replacement (c : Config) (env : Environment) (expand : String → Except Failure String) :
    Piece → Except Failure String
  | .char ch => pure (String.singleton ch)
  | .placeholder inner => substitute c env expand inner

theorem resolveWithin_succ (left : Nat) (text : String) :
    resolveWithin c env (left + 1) text =
      ((pieces text.toList).mapM (replacement c env (resolveWithin c env left))).map String.join := by
  rw [resolveWithin]
  change Except.bind ((pieces text.toList).mapM (replacement c env (resolveWithin c env left)))
    (fun parts => .ok (String.join parts)) = _
  cases (pieces text.toList).mapM (replacement c env (resolveWithin c env left)) <;> rfl

section Pieces

variable {α β ε : Type} {f : α → Except ε β}

theorem exists_of_mapM_error {xs : List α} {e : ε} (h : xs.mapM f = .error e) :
    ∃ x ∈ xs, f x = .error e := by
  induction xs with
  | nil => cases h
  | cons x xs ih =>
      rw [List.mapM_cons] at h
      cases hx : f x with
      | error e' =>
          rw [hx] at h
          cases h
          exact ⟨x, .head _, hx⟩
      | ok y =>
          cases hxs : xs.mapM f with
          | error e' =>
              rw [hx, hxs] at h
              cases h
              obtain ⟨x', hmem, hx'⟩ := ih hxs
              exact ⟨x', .tail _ hmem, hx'⟩
          | ok ys =>
              rw [hx, hxs] at h
              cases h

theorem exists_of_mapM_ok {xs : List α} {ys : List β} (h : xs.mapM f = .ok ys) :
    ∀ x ∈ xs, ∃ y, f x = .ok y := by
  induction xs generalizing ys with
  | nil => simp
  | cons x xs ih =>
      rw [List.mapM_cons] at h
      cases hx : f x with
      | error e' =>
          rw [hx] at h
          cases h
      | ok y =>
          cases hxs : xs.mapM f with
          | error e' =>
              rw [hx, hxs] at h
              cases h
          | ok ys' =>
              intro x' hx'
              rcases List.mem_cons.mp hx' with rfl | hx'
              · exact ⟨y, hx⟩
              · exact ih hxs x' hx'

end Pieces

variable {expand : String → Except Failure String} {p : Placeholder}

theorem substitute_variable (hcolon : ':' ∉ p.reference.toList) {text : String}
    (h : env.get? p.reference = some text) : substitute c env expand p.inner = .ok text := by
  simp only [substitute, Placeholder.ofInner_inner hcolon, h]

theorem substitute_value (hcolon : ':' ∉ p.reference.toList) (h : env.get? p.reference = none)
    {text : String} (htext : c.textAt p.reference = some text) :
    substitute c env expand p.inner =
      if mayHold text.toList then expand text else .ok text := by
  simp only [substitute, Placeholder.ofInner_inner hcolon, h]
  have hnull := ne_null_of_textAt htext
  rw [textAt_of_ne_null hnull] at htext
  split
  · rename_i hnull'
    exact absurd hnull' hnull
  · rw [htext]

theorem substitute_null (hcolon : ':' ∉ p.reference.toList) (h : env.get? p.reference = none)
    (hnull : c.lookup p.reference = .null) :
    substitute c env expand p.inner =
      match p.fallback with
      | some text => .ok text
      | none => .error (unresolved p.inner) := by
  cases hfallback : p.fallback <;>
    simp only [substitute, Placeholder.ofInner_inner hcolon, h, hnull, hfallback]

theorem substitute_textless (hcolon : ':' ∉ p.reference.toList)
    (h : env.get? p.reference = none) (hvalue : c.lookup p.reference ≠ .null)
    (htext : c.textAt p.reference = none) :
    substitute c env expand p.inner = .error (.plain .value) := by
  rw [textAt_of_ne_null hvalue] at htext
  simp only [substitute, Placeholder.ofInner_inner hcolon, h, htext]

/-! ### Resolving beyond the bound -/

/-- Every failure to replace a placeholder is a failure of a value. -/
theorem isA_value_of_substitute {inner : List Char} {f : Failure}
    (hexpand : ∀ text f, expand text = .error f → f.isA .value)
    (h : substitute c env expand inner = .error f) : f.isA .value := by
  have hcolon := Placeholder.colon_notMem_reference inner
  rw [← Placeholder.inner_ofInner inner] at h
  generalize Placeholder.ofInner inner = p at h hcolon
  cases hvar : env.get? p.reference with
  | some text =>
      rw [substitute_variable hcolon hvar] at h
      cases h
  | none =>
      by_cases hnull : c.lookup p.reference = .null
      · rw [substitute_null hcolon hvar hnull] at h
        cases hfall : p.fallback with
        | some text =>
            rw [hfall] at h
            cases h
        | none =>
            rw [hfall] at h
            cases h
            rfl
      · cases htext : c.textAt p.reference with
        | none =>
            rw [substitute_textless hcolon hvar hnull htext] at h
            cases h
            rfl
        | some text =>
            rw [substitute_value hcolon hvar htext] at h
            by_cases hhold : mayHold text.toList
            · rw [if_pos hhold] at h
              exact hexpand text f h
            · rw [if_neg hhold] at h
              cases h

theorem isA_value_of_resolveWithin (left : Nat) {text : String} {f : Failure}
    (h : resolveWithin c env left text = .error f) : f.isA .value := by
  induction left generalizing text f with
  | zero =>
      rw [resolveWithin] at h
      cases h
      rfl
  | succ left ih =>
      rw [resolveWithin_succ] at h
      cases hparts : (pieces text.toList).mapM (replacement c env (resolveWithin c env left)) with
      | ok parts =>
          rw [hparts] at h
          cases h
      | error f' =>
          rw [hparts] at h
          cases h
          obtain ⟨piece, -, hpiece⟩ := exists_of_mapM_error hparts
          cases piece with
          | char ch => cases hpiece
          | placeholder inner => exact isA_value_of_substitute (fun _ _ => ih) hpiece

/-- **A chain beyond the bound makes resolving fail.** -/
theorem exists_error_of_chain (left : Nat) {text last : String} {references : List String}
    (h : c.Chain env text references last) (hlong : left < references.length) :
    ∃ f, resolveWithin c env left text = .error f := by
  induction left generalizing text references with
  | zero => exact ⟨_, rfl⟩
  | succ left ih =>
      cases h with
      | nil => simp at hlong
      | @cons _ reference next _ rest hleads hchain =>
          obtain ⟨⟨p, hmeets, rfl⟩, hvar, htext⟩ := hleads
          obtain ⟨hcolon, hmem⟩ := meets_iff.mp hmeets
          have hrest : left < rest.length := by simpa using hlong
          obtain ⟨f, hf⟩ := ih hchain hrest
          -- the chain goes on, so the next text holds a placeholder
          have hhold : mayHold next.toList = true := by
            cases hchain with
            | nil => simp at hrest
            | cons hleads _ =>
                obtain ⟨⟨q, hq, -⟩, -⟩ := hleads
                exact Template.mayHold_of_mem (meets_iff.mp hq).2
          rw [resolveWithin_succ]
          cases hparts : (pieces text.toList).mapM
              (replacement c env (resolveWithin c env left)) with
          | error f' => exact ⟨f', rfl⟩
          | ok parts =>
              exfalso
              obtain ⟨part, hpart⟩ := exists_of_mapM_ok hparts _ hmem
              rw [replacement, substitute_value hcolon hvar htext, if_pos hhold, hf] at hpart
              cases hpart

/-! ### Resolving within the bound -/

/-- A placeholder stands for something: a variable, a value, or a fallback. -/
def Settles (c : Config) (env : Environment) (p : Placeholder) : Prop :=
  env.get? p.reference ≠ none ∨ c.lookup p.reference ≠ .null ∨ p.fallback ≠ none

/-- Pieces each of which is replaced by what it comes to. -/
theorem exists_mapM_of_forall {ps : List Piece}
    (h : ∀ piece ∈ ps, ∃ t, replacement c env expand piece = .ok t ∧
      ∀ rest out, c.Expands env rest out → c.Expands env (piece :: rest) (t.toList ++ out)) :
    ∃ ts, ps.mapM (replacement c env expand) = .ok ts ∧
      c.Expands env ps (String.join ts).toList := by
  induction ps with
  | nil => exact ⟨[], rfl, .nil⟩
  | cons piece ps ih =>
      obtain ⟨t, ht, hexpands⟩ := h piece (.head _)
      obtain ⟨ts, hts, hrest⟩ := ih fun q hq => h q (.tail _ hq)
      refine ⟨t :: ts, ?_, ?_⟩
      · rw [List.mapM_cons, ht, hts]
        rfl
      · rw [String.join_cons, String.toList_append]
        exact hexpands ps _ hrest

/-- A placeholder that stands for something is replaced by what it comes to, if the text of its
value is. -/
theorem exists_replacement (hdata : c.data.Brief) (hcolon : ':' ∉ p.reference.toList)
    (hsettles : c.Settles env p)
    (hexpand : ∀ text, env.get? p.reference = none → c.textAt p.reference = some text →
      ∃ out, expand text = .ok out ∧ c.Substitutes env text out) :
    ∃ t, replacement c env expand (.placeholder p.inner) = .ok t ∧
      ∀ rest out, c.Expands env rest out →
        c.Expands env (.placeholder p.inner :: rest) (t.toList ++ out) := by
  rw [replacement]
  cases hvar : env.get? p.reference with
  | some text =>
      exact ⟨text, substitute_variable hcolon hvar, fun _ _ => .fromVariable rfl hcolon hvar⟩
  | none =>
      by_cases hnull : c.lookup p.reference = .null
      · cases hfall : p.fallback with
        | some text =>
            refine ⟨text, ?_, fun _ _ => .fromFallback rfl hcolon hvar hnull hfall⟩
            rw [substitute_null hcolon hvar hnull, hfall]
        | none =>
            rcases hsettles with h | h | h
            · exact absurd hvar h
            · exact absurd hnull h
            · exact absurd hfall h
      · obtain ⟨text, htext⟩ := exists_textAt hdata hnull
        rw [substitute_value hcolon hvar htext]
        by_cases hhold : mayHold text.toList
        · rw [if_pos hhold]
          obtain ⟨out, hout, ps, hreads, hsub⟩ := hexpand text hvar htext
          exact ⟨out, hout, fun _ _ => .fromValue rfl hcolon hvar htext hreads hsub⟩
        · rw [if_neg hhold]
          have hself : c.Substitutes env text text := substitutes_self (Bool.eq_false_iff.mpr hhold)
          obtain ⟨ps, hreads, hsub⟩ := hself
          exact ⟨text, rfl, fun _ _ => .fromValue rfl hcolon hvar htext hreads hsub⟩

/-- **Within the bound, resolving substitutes.** -/
theorem exists_substitutes (hdata : c.data.Brief) (left : Nat) {text : String}
    (h : ∀ references last, c.Chain env text references last →
      references.length < left ∧ ∀ p, Meets last p → c.Settles env p) :
    ∃ out, resolveWithin c env left text = .ok out ∧ c.Substitutes env text out := by
  induction left generalizing text with
  | zero => simpa using (h [] text (.nil text)).1
  | succ left ih =>
      have hpieces : ∀ piece ∈ pieces text.toList,
          ∃ t, replacement c env (resolveWithin c env left) piece = .ok t ∧
            ∀ rest out, c.Expands env rest out →
              c.Expands env (piece :: rest) (t.toList ++ out) := by
        intro piece hmem
        cases piece with
        | char ch => exact ⟨_, rfl, fun rest out hrest => by simpa using hrest.char⟩
        | placeholder inner =>
            have hmeets := meets_ofInner hmem
            rw [← Placeholder.inner_ofInner inner]
            refine exists_replacement hdata hmeets.1 ((h [] text (.nil text)).2 _ hmeets) ?_
            intro next hvar htext
            -- a chain from the next text is one from this text that is longer by one
            refine ih fun references last hchain => ?_
            have hleads : c.Leads env text (Placeholder.ofInner inner).reference next :=
              ⟨⟨_, hmeets, rfl⟩, hvar, htext⟩
            obtain ⟨hlength, hsettles⟩ := h _ _ (.cons hleads hchain)
            exact ⟨by simpa using hlength, hsettles⟩
      obtain ⟨parts, hparts, hexpands⟩ := exists_mapM_of_forall hpieces
      refine ⟨String.join parts, ?_, _, reads_iff.mpr rfl, hexpands⟩
      rw [resolveWithin_succ, hparts]
      rfl

/-! ### The value at a key -/

theorem get_of_text {key text : String} (hvar : env.get? (Environment.override key) = none)
    (hvalue : c.lookup key = .text text) (absent : Value) :
    c.get env key absent =
      if mayHold text.toList then (c.resolve env text).map .text else .ok (.text text) := by
  simp only [get, hvar, hvalue]

/-- **The value at a key is its text after substitution, and a failure where placeholders come back
to a reference.**  The bound of ten references is met in no other case than a chain of more. -/
theorem get_template (c : Config) (env : Environment) (key text : String) (absent : Value)
    (hdata : c.data.Brief) (hvar : env.get? (Environment.override key) = none)
    (hvalue : c.lookup key = .text text) :
    ((∃ references last, c.Chain env text references last ∧ ¬ references.Nodup) →
      ∃ f, c.get env key absent = .error f ∧ f.isA .value) ∧
    ((∀ references last, c.Chain env text references last →
        references.length ≤ 10 ∧ ∀ p, Meets last p → c.Settles env p) →
      ∃ out, c.get env key absent = .ok (.text out) ∧
        ∀ other, c.Substitutes env text other ↔ other = out) := by
  rw [get_of_text hvar hvalue]
  constructor
  · rintro ⟨references, last, hchain, hrepeat⟩
    obtain ⟨longer, last', hlength, hlonger⟩ := exists_longer_chain hchain hrepeat (maxDepth + 1)
    obtain ⟨f, hf⟩ := exists_error_of_chain (maxDepth + 1) hlonger hlength
    have hhold : mayHold text.toList = true := by
      cases hlonger with
      | nil => simp at hlength
      | cons hleads _ =>
          obtain ⟨⟨p, hp, -⟩, -⟩ := hleads
          exact Template.mayHold_of_mem (meets_iff.mp hp).2
    refine ⟨f, ?_, isA_value_of_resolveWithin _ hf⟩
    rw [if_pos hhold, resolve, hf]
    rfl
  · intro h
    have hbound : ∀ references last, c.Chain env text references last →
        references.length < maxDepth + 1 ∧ ∀ p, Meets last p → c.Settles env p := by
      intro references last hchain
      obtain ⟨hlength, hsettles⟩ := h references last hchain
      exact ⟨Nat.lt_succ_of_le hlength, hsettles⟩
    by_cases hhold : mayHold text.toList
    · obtain ⟨out, hout, hsub⟩ := exists_substitutes hdata (maxDepth + 1) hbound
      refine ⟨out, ?_, fun other => ⟨fun hother => hother.unique hsub, ?_⟩⟩
      · rw [if_pos hhold, resolve, hout]
        rfl
      · rintro rfl
        exact hsub
    · have hself : c.Substitutes env text text := substitutes_self (Bool.eq_false_iff.mpr hhold)
      refine ⟨text, if_neg hhold, fun other => ⟨fun hother => hother.unique hself, ?_⟩⟩
      rintro rfl
      exact hself

/-- Two texts that lead to each other, and one with a list, a variable and a fallback. -/
theorem get_template_ring :
    let c : Config :=
      { data := .mapping [(.text "a", .text "<$\x7bb\x7d$\x7bX\x7d$\x7bno:d\x7d>"),
          (.text "b", .list [.bool true, .text "z"]),
          (.text "u", .text "$\x7bno:d\x7d$\x7bv\x7d"), (.text "v", .text "$\x7bu\x7d")] }
    let env : Environment := [("X", "$\x7ba\x7d")]
    c.data.Brief ∧ env.get? (Environment.override "u") = none ∧
      env.get? (Environment.override "a") = none ∧
      (∃ f, c.get env "u" .null = .error f ∧ f.isA .value) ∧
      ∃ out, c.get env "a" .null = .ok (.text out) ∧
        ∀ other, c.Substitutes env "<$\x7bb\x7d$\x7bX\x7d$\x7bno:d\x7d>" other ↔ other = out := by
  intro c env
  have hdata : c.data.Brief := by
    have hlist : (Value.list [.bool true, .text "z"]).Brief :=
      .list (by simp [Value.brief_bool, Value.brief_text])
    exact .mapping (by simp [Value.brief_text, hlist])
  have hu : env.get? (Environment.override "u") = none := by decide +kernel
  have ha : env.get? (Environment.override "a") = none := by decide +kernel
  refine ⟨hdata, hu, ha, ?_, ?_⟩
  · have hleads (text next : String) (inner : List Char)
        (hmem : .placeholder inner ∈ pieces text.toList)
        (hvar : env.get? (Placeholder.ofInner inner).reference = none)
        (htext : c.textAt (Placeholder.ofInner inner).reference = some next) :
        c.Leads env text (Placeholder.ofInner inner).reference next :=
      ⟨⟨_, meets_ofInner hmem, rfl⟩, hvar, htext⟩
    have hv := hleads "$\x7bno:d\x7d$\x7bv\x7d" "$\x7bu\x7d" ['v'] (by decide +kernel)
      (by decide +kernel) (by decide +kernel)
    have hback := hleads "$\x7bu\x7d" "$\x7bno:d\x7d$\x7bv\x7d" ['u'] (by decide +kernel)
      (by decide +kernel) (by decide +kernel)
    refine (get_template c env "u" _ .null hdata hu (by cbv)).1
      ⟨_, _, .cons hv (.cons hback (.cons hv (.nil _))), ?_⟩
    decide +kernel
  · refine (get_template c env "a" _ .null hdata ha (by cbv)).2 ?_
    have hmeets (p : Placeholder) (hp : Meets "<$\x7bb\x7d$\x7bX\x7d$\x7bno:d\x7d>" p) :
        p = ⟨"b", none⟩ ∨ p = ⟨"X", none⟩ ∨ p = ⟨"no", some "d"⟩ := by
      obtain ⟨hcolon, hmem⟩ := meets_iff.mp hp
      have hpieces : pieces "<$\x7bb\x7d$\x7bX\x7d$\x7bno:d\x7d>".toList =
          [.char '<', .placeholder ['b'], .placeholder ['X'], .placeholder ['n', 'o', ':', 'd'],
            .char '>'] := by decide +kernel
      rw [← Placeholder.ofInner_inner hcolon]
      rw [hpieces] at hmem
      simp only [List.mem_cons, reduceCtorEq, Piece.placeholder.injEq, List.not_mem_nil, or_false,
        false_or] at hmem
      rcases hmem with h | h | h <;> rw [h] <;> decide +kernel
    have hnone (p : Placeholder) : ¬ Meets "[True, 'z']" p := by
      intro hp
      have hhold := Template.mayHold_of_mem (meets_iff.mp hp).2
      exact absurd hhold (by decide +kernel)
    intro references last hchain
    cases hchain with
    | nil =>
        refine ⟨by simp, fun p hp => ?_⟩
        rcases hmeets p hp with rfl | rfl | rfl
        · have htext : c.textAt "b" = some "[True, 'z']" := by decide +kernel
          exact .inr (.inl (ne_null_of_textAt htext))
        · exact .inl (by decide +kernel)
        · exact .inr (.inr (by decide +kernel))
    | @cons _ _ next _ _ hleads hrest =>
        obtain ⟨⟨p, hp, rfl⟩, hvar, htext⟩ := hleads
        rcases hmeets p hp with rfl | rfl | rfl
        · obtain rfl : next = "[True, 'z']" :=
            Option.some.inj (htext.symm.trans (by decide +kernel))
          cases hrest with
          | nil => exact ⟨by simp, fun q hq => absurd hq (hnone q)⟩
          | cons hleads _ =>
              obtain ⟨⟨q, hq, -⟩, -⟩ := hleads
              exact absurd hq (hnone q)
        · exact absurd hvar (by decide +kernel)
        · rw [show c.textAt "no" = none by decide +kernel] at htext
          cases htext

end ServiceClient.Config

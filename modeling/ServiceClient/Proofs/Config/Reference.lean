/-
**Values that are read through a reference.**

A text that consists of one placeholder refers to another key.  Reading it resolves the value at
that key, with one step fewer to go than reading the key itself has; so where the bound is not met
the two come to the same.  They part in two places.  The variable that overrides a key is looked at
where the key is read, and not where it is referred to.  And a list or a mapping is read as it is,
while a reference to it resolves the placeholders of its text.

Main definitions:

* `ServiceClient.Config.reference`: the text that refers to a key;
* `ServiceClient.Config.FallsShort`: an outcome that is another one, or meets the bound.

Main results:

* `ServiceClient.Config.resolveWithin_fallsShort`: **one step fewer changes nothing, or meets the
  bound**;
* `ServiceClient.Config.get_through_reference`: **a reference reads what its key reads**, where no
  variable overrides the key and only a text holds placeholders.
-/

import ServiceClient.Proofs.Config.Substitution

set_option autoImplicit false

namespace ServiceClient.Config

open ServiceClient.Template (Begins Piece Placeholder pieces mayHold)

variable {c : Config} {env : Environment}

/-! ### Fewer steps -/

/-- An outcome that is another one, unless the bound is met. -/
def FallsShort {α : Type} (r r' : Except Failure α) : Prop :=
  ∀ a, r' = .ok a → r = .ok a ∨ ∃ text, r = .error (tooDeep text)

section Pieces

variable {α β : Type} {f f' : α → Except Failure β}

theorem mapM_fallsShort {xs : List α} (h : ∀ x ∈ xs, FallsShort (f x) (f' x)) :
    FallsShort (xs.mapM f) (xs.mapM f') := by
  induction xs with
  | nil => exact fun ys hys => .inl hys
  | cons x xs ih =>
      intro ys hys
      rw [List.mapM_cons] at hys ⊢
      obtain ⟨y, hy⟩ : ∃ y, f' x = .ok y := by
        cases hx : f' x with
        | error e =>
            rw [hx] at hys
            cases hys
        | ok y => exact ⟨y, rfl⟩
      obtain ⟨rest, hrest⟩ : ∃ rest, xs.mapM f' = .ok rest := by
        cases hxs : xs.mapM f' with
        | error e =>
            rw [hy, hxs] at hys
            cases hys
        | ok rest => exact ⟨rest, rfl⟩
      rw [hy, hrest] at hys
      rcases h x (.head _) y hy with hx | ⟨text, hx⟩
      · rcases ih (fun z hz => h z (.tail _ hz)) rest hrest with hxs | ⟨text, hxs⟩
        · rw [hx, hxs]
          exact .inl hys
        · rw [hx, hxs]
          exact .inr ⟨text, rfl⟩
      · rw [hx]
        exact .inr ⟨text, rfl⟩

end Pieces

section Substitute

variable {expand expand' : String → Except Failure String}

theorem substitute_fallsShort (h : ∀ text, FallsShort (expand text) (expand' text))
    (inner : List Char) :
    FallsShort (substitute c env expand inner) (substitute c env expand' inner) := by
  have hcolon := Placeholder.colon_notMem_reference inner
  rw [← Placeholder.inner_ofInner inner]
  generalize Placeholder.ofInner inner = p at hcolon
  cases hvar : env.get? p.reference with
  | some text =>
      rw [substitute_variable hcolon hvar, substitute_variable hcolon hvar]
      exact fun _ => .inl
  | none =>
      by_cases hnull : c.lookup p.reference = .null
      · rw [substitute_null hcolon hvar hnull, substitute_null hcolon hvar hnull]
        exact fun _ => .inl
      · cases htext : c.textAt p.reference with
        | none =>
            rw [substitute_textless hcolon hvar hnull htext,
              substitute_textless hcolon hvar hnull htext]
            exact fun _ => .inl
        | some text =>
            rw [substitute_value hcolon hvar htext, substitute_value hcolon hvar htext]
            by_cases hhold : mayHold text.toList
            · rw [if_pos hhold, if_pos hhold]
              exact h text
            · rw [if_neg hhold, if_neg hhold]
              exact fun _ => .inl

end Substitute

/-- **One step fewer changes nothing, or meets the bound.** -/
theorem resolveWithin_fallsShort (left : Nat) (text : String) :
    FallsShort (resolveWithin c env left text) (resolveWithin c env (left + 1) text) := by
  -- by induction on the steps: each placeholder of the text leads on with one step fewer
  induction left generalizing text with
  | zero => exact fun _ _ => .inr ⟨text, rfl⟩
  | succ left ih =>
      have hpieces : ∀ piece ∈ pieces text.toList,
          FallsShort (replacement c env (resolveWithin c env left) piece)
            (replacement c env (resolveWithin c env (left + 1)) piece) := by
        intro piece _
        cases piece with
        | char ch => exact fun _ => .inl
        | placeholder inner => exact substitute_fallsShort ih inner
      intro out hout
      rw [resolveWithin_succ] at hout ⊢
      cases hparts : (pieces text.toList).mapM
          (replacement c env (resolveWithin c env (left + 1))) with
      | error f =>
          rw [hparts] at hout
          cases hout
      | ok parts =>
          rw [hparts] at hout
          rcases mapM_fallsShort hpieces parts hparts with hfew | ⟨deep, hfew⟩
          · rw [hfew]
            exact .inl hout
          · rw [hfew]
            exact .inr ⟨deep, rfl⟩

/-! ### References -/

def reference (key : String) : String :=
  "$\x7b" ++ key ++ "\x7d"

section Reference

variable {key : String}

theorem pieces_reference (hne : key ≠ "") (hbrace : '}' ∉ key.toList) :
    pieces (reference key).toList = [.placeholder key.toList] := by
  have hbegins : Begins key.toList [] (reference key).toList := by
    refine ⟨by simp [reference], fun h => hne ?_, hbrace⟩
    exact String.toList_inj.mp h
  rw [Template.pieces_of_begins hbegins, pieces]

theorem mayHold_reference (hne : key ≠ "") (hbrace : '}' ∉ key.toList) :
    mayHold (reference key).toList = true := by
  have hmem : Piece.placeholder key.toList ∈ pieces (reference key).toList := by
    rw [pieces_reference hne hbrace]
    exact .head _
  exact Template.mayHold_of_mem hmem

/-- A reference is resolved as its only placeholder is. -/
theorem resolveWithin_reference (hne : key ≠ "") (hbrace : '}' ∉ key.toList) (left : Nat) :
    resolveWithin c env (left + 1) (reference key) =
      substitute c env (resolveWithin c env left) (Placeholder.mk key none).inner := by
  have hinner : (Placeholder.mk key none).inner = key.toList := by simp [Placeholder.inner]
  rw [resolveWithin_succ, pieces_reference hne hbrace, hinner, List.mapM_cons, List.mapM_nil,
    replacement]
  cases substitute c env (resolveWithin c env left) key.toList with
  | error f => rfl
  | ok text => exact congrArg Except.ok (by simp [String.join])

end Reference

/-! ### Reading a key directly -/

section Direct

variable {key : String}

/-- What is neither null nor a text is read as it is. -/
theorem get_of_other (hvar : env.get? (Environment.override key) = none)
    (hnull : c.lookup key ≠ .null) (htext : ∀ text, c.lookup key ≠ .text text) (absent : Value) :
    c.get env key absent = .ok (c.lookup key) := by
  rw [get, hvar]
  generalize c.lookup key = v at hnull htext
  cases v with
  | null => exact absurd rfl hnull
  | text text => exact absurd rfl (htext text)
  | _ => rfl

end Direct

/-- A text that refers to a key is read by resolving its only placeholder. -/
theorem get_of_reference {key pointer : String} (hne : key ≠ "") (hbrace : '}' ∉ key.toList)
    (hstored : c.lookup pointer = .text (reference key))
    (hvar : env.get? (Environment.override pointer) = none) (absent : Value) :
    c.get env pointer absent =
      (substitute c env (resolveWithin c env maxDepth) (Placeholder.mk key none).inner).map
        .text := by
  rw [get_of_text hvar hstored, if_pos (mayHold_reference hne hbrace), resolve,
    resolveWithin_reference hne hbrace]

/-- **A reference reads what its key reads**, as a text: where no variable overrides the key, and
the value at the key is a text if its text may hold placeholders.  Reading the reference fails in
one case, that the value has no text, unless the bound is met. -/
theorem get_through_reference (c : Config) (env : Environment) {key pointer : String}
    (hne : key ≠ "") (hcolon : ':' ∉ key.toList) (hbrace : '}' ∉ key.toList)
    (hstored : c.lookup pointer = .text (reference key))
    (hvar : env.get? (Environment.override pointer) = none) (hname : env.get? key = none)
    (hfree : env.get? (Environment.override key) = none)
    (hplain : ∀ text, (c.lookup key).text? = some text → mayHold text.toList = true →
      c.lookup key = .text text)
    {v : Value} (hread : c.get env key .null = .ok v) (hv : v ≠ .null) (absent : Value)
    (hbound : ∀ text, c.get env pointer absent ≠ .error (tooDeep text)) :
    c.get env pointer absent =
      v.text?.elim (.error (.plain .value)) fun text => .ok (.text text) := by
  rw [get_of_reference hne hbrace hstored hvar] at hbound ⊢
  have hnull : c.lookup key ≠ .null := by
    intro hnull
    rw [get_of_null hfree hnull] at hread
    exact hv (Except.ok.inj hread).symm
  have hat := textAt_of_ne_null hnull
  by_cases htext : ∃ text, c.lookup key = .text text
  · obtain ⟨text, hvalue⟩ := htext
    rw [hvalue, Value.text?_text] at hat
    rw [substitute_value (p := .mk key none) hcolon hname hat] at hbound ⊢
    rw [get_of_text hfree hvalue] at hread
    by_cases hhold : mayHold text.toList
    · rw [if_pos hhold] at hread hbound ⊢
      cases hresolve : c.resolve env text with
      | error f =>
          rw [hresolve] at hread
          cases hread
      | ok out =>
          rw [hresolve] at hread
          cases hread
          -- through the reference there is one step fewer
          rcases resolveWithin_fallsShort maxDepth text out hresolve with hfew | ⟨deep, hfew⟩
          · rw [hfew]
            rfl
          · have hfailed : (Except.error (tooDeep deep)).map Value.text = .error (tooDeep deep) := rfl
            rw [hfew, hfailed] at hbound
            exact absurd rfl (hbound deep)
    · rw [if_neg hhold] at hread ⊢
      cases hread
      rfl
  · have hother : ∀ text, c.lookup key ≠ .text text := fun text h => htext ⟨text, h⟩
    rw [get_of_other hfree hnull hother] at hread
    rw [← Except.ok.inj hread]
    cases hshown : (c.lookup key).text? with
    | none =>
        rw [substitute_textless (p := .mk key none) hcolon hname hnull (hat.trans hshown)]
        rfl
    | some text =>
        have hhold : ¬ mayHold text.toList = true := fun h => hother text (hplain text hshown h)
        rw [substitute_value (p := .mk key none) hcolon hname (hat.trans hshown), if_neg hhold]
        rfl

/-- Whether a certain text is read. -/
def isRead (text : String) : Except Failure Value → Bool
  | .ok (.text t) => t == text
  | _ => false

theorem eq_of_isRead {text : String} {r : Except Failure Value} (h : isRead text r = true) :
    r = .ok (.text text) := by
  unfold isRead at h
  split at h
  · rw [eq_of_beq h]
  · cases h

/-- A list that is reached by way of a text with a placeholder of its own, and a number. -/
theorem get_through_reference_nested :
    let c : Config :=
      { data := .mapping [(.text "a", .text "$\x7bb.c\x7d"),
          (.text "b", .mapping [(.text "c", .text "<$\x7bd\x7d$\x7bX:x\x7d>")]),
          (.text "d", .list [.int 7, .null])] }
    let env : Environment := [("X", "$\x7bd\x7d")]
    c.lookup "a" = .text (reference "b.c") ∧ env.get? (Environment.override "b.c") = none ∧
      c.get env "b.c" .null = .ok (.text "<[7, None]$\x7bd\x7d>") ∧
      c.get env "a" .null = .ok (.text "<[7, None]$\x7bd\x7d>") := by
  intro c env
  have hstored : c.lookup "a" = .text (reference "b.c") := by cbv
  have hfree : env.get? (Environment.override "b.c") = none := by decide +kernel
  have hread : c.get env "b.c" .null = .ok (.text "<[7, None]$\x7bd\x7d>") :=
    eq_of_isRead (by decide +kernel)
  have hvalue : c.lookup "b.c" = .text "<$\x7bd\x7d$\x7bX:x\x7d>" := by cbv
  have hplain : ∀ text, (c.lookup "b.c").text? = some text → mayHold text.toList = true →
      c.lookup "b.c" = .text text := by
    intro text htext _
    rw [hvalue] at htext ⊢
    exact congrArg Value.text (Option.some.inj htext)
  have hbound : ∀ text, c.get env "a" .null ≠ .error (tooDeep text) := by
    intro text hdeep
    have hok : (c.get env "a" .null).isOk = true := by decide +kernel
    rw [hdeep] at hok
    cases hok
  have hsome : Value.text "<[7, None]$\x7bd\x7d>" ≠ .null := by
    intro hnull
    cases hnull
  refine ⟨hstored, hfree, hread, ?_⟩
  exact get_through_reference c env (by decide) (by decide) (by decide) hstored (by decide +kernel)
    (by decide +kernel) hfree hplain hread hsome .null hbound

/-- The variable of a key is not looked at through a reference, and the text of a list is resolved
there. -/
theorem reference_astray :
    let c : Config :=
      { data := .mapping [(.text "a", .text "$\x7bb\x7d"), (.text "b", .text "file")] }
    let d : Config :=
      { data := .mapping [(.text "a", .text "$\x7bb\x7d"),
          (.text "b", .list [.text "$\x7bx:1\x7d"])] }
    let env : Environment := [("ODATA_B", "env")]
    (c.lookup "a" = .text (reference "b") ∧ env.get? (Environment.override "a") = none ∧
      env.get? "b" = none ∧ c.get env "b" .null = .ok (.text "env") ∧
      c.get env "a" .null = .ok (.text "file")) ∧
    d.lookup "a" = .text (reference "b") ∧
      d.get [] "b" .null = .ok (.list [.text "$\x7bx:1\x7d"]) ∧
      (Value.list [.text "$\x7bx:1\x7d"]).text? = some "['$\x7bx:1\x7d']" ∧
      d.get [] "a" .null = .ok (.text "['1']") := by
  intro c d env
  have hfile : c.get env "a" .null = .ok (.text "file") := eq_of_isRead (by decide +kernel)
  have hlist : d.get [] "a" .null = .ok (.text "['1']") := eq_of_isRead (by decide +kernel)
  have hvalue : d.lookup "b" = .list [.text "$\x7bx:1\x7d"] := by cbv
  have hdirect : d.get [] "b" .null = .ok (d.lookup "b") := by
    refine get_of_other rfl (fun hnull => ?_) (fun text htext => ?_) .null
    · rw [hvalue] at hnull
      cases hnull
    · rw [hvalue] at htext
      cases htext
  rw [hvalue] at hdirect
  have hoverride : c.get env "b" .null = .ok (.text "env") := get_of_override (by decide +kernel) _
  exact ⟨⟨by cbv, by decide +kernel, by decide +kernel, hoverride, hfile⟩, by cbv, hdirect,
    by decide +kernel, hlist⟩

end ServiceClient.Config

/-
**Placeholders, read from left to right.**

A text is read from its beginning.  Where a placeholder begins, that is `${`, at least one character
that is no closing brace, and a closing brace, the placeholder is read as a whole; everywhere else
one character is.  So the placeholders that are read do not overlap, and none is missed.  What
stands between the braces names a reference up to its first colon, and after it a fallback.

Main definitions:

* `ServiceClient.Template.Begins`: a text that begins with a placeholder;
* `ServiceClient.Template.Reads`: a text and its pieces, in order;
* `ServiceClient.Template.Placeholder.inner`: a placeholder without its braces.

Main results:

* `ServiceClient.Template.reads_iff`: **the pieces of a text are those that are read**, and no
  others;
* `ServiceClient.Template.Placeholder.ofInner_inner`,
  `ServiceClient.Template.Placeholder.inner_ofInner`: a reference ends at the first colon.
-/

import ServiceClient.Config.Template

set_option autoImplicit false

namespace ServiceClient.Template

/-! ### Reading -/

/-- A text that begins with a placeholder, which holds `inner` and is followed by `rest`. -/
structure Begins (inner rest text : List Char) : Prop where
  text_eq : text = '$' :: '{' :: inner ++ '}' :: rest
  ne_nil : inner ≠ []
  open_braces : '}' ∉ inner

/-- A text and the pieces that are read from it. -/
inductive Reads : List Char → List Piece → Prop
  | nil : Reads [] []
  /-- A placeholder is read where one begins. -/
  | placeholder {inner rest text : List Char} {ps : List Piece} :
      Begins inner rest text → Reads rest ps → Reads text (.placeholder inner :: ps)
  /-- A character is read where none begins. -/
  | char {c : Char} {text : List Char} {ps : List Piece} :
      (∀ inner rest, ¬ Begins inner rest (c :: text)) → Reads text ps →
      Reads (c :: text) (.char c :: ps)

/-! ### Where a placeholder begins -/

theorem closed?_of_open {inner : List Char} (h : inner ≠ []) (hopen : '}' ∉ inner)
    (rest : List Char) :
    ∃ hlt, closed? (inner ++ '}' :: rest) = some (inner, ⟨rest, hlt⟩) := by
  have hall : ∀ c ∈ inner, (c != '}') = true := by
    intro c hc
    exact bne_iff_ne.mpr fun heq => hopen (heq ▸ hc)
  have htake : (inner ++ '}' :: rest).takeWhile (· != '}') = inner := by
    rw [List.takeWhile_append_of_pos hall]
    simp
  have hdrop : (inner ++ '}' :: rest).dropWhile (· != '}') = '}' :: rest := by
    rw [List.dropWhile_append_of_pos hall]
    simp
  unfold closed?
  split
  · rename_i hnil
    rw [hdrop] at hnil
    cases hnil
  · rename_i c rest' hcons
    rw [hdrop] at hcons
    cases hcons
    simp only [htake]
    exact ⟨by simp; omega, by simp [h]⟩

theorem begins_of_closed? {text inner : List Char}
    {rest : { r : List Char // r.length < text.length }} (h : closed? text = some (inner, rest)) :
    Begins inner rest.1 ('$' :: '{' :: text) where
  text_eq := congrArg (fun cs => '$' :: '{' :: cs) (eq_of_closed? h)
  ne_nil := by
    unfold closed? at h
    split at h
    · cases h
    · split at h
      · cases h
      · rename_i hne
        cases h
        simpa using hne
  open_braces := by
    unfold closed? at h
    split at h
    · cases h
    · split at h
      · cases h
      · cases h
        intro hmem
        simpa using List.all_eq_true.mp List.all_takeWhile _ hmem

/-! ### The pieces of a text -/

theorem pieces_of_begins {inner rest text : List Char} (h : Begins inner rest text) :
    pieces text = .placeholder inner :: pieces rest := by
  obtain ⟨hlt, hclosed⟩ := closed?_of_open h.ne_nil h.open_braces rest
  rw [h.text_eq, List.cons_append, List.cons_append, pieces, hclosed]

theorem pieces_of_not_begins {c : Char} {text : List Char}
    (h : ∀ inner rest, ¬ Begins inner rest (c :: text)) :
    pieces (c :: text) = .char c :: pieces text := by
  generalize ht : c :: text = t at h
  fun_cases pieces t with
  | case1 => cases ht
  | case2 text' inner rest hlt hclosed => exact absurd (begins_of_closed? hclosed) (h _ _)
  | case3 text' hclosed => cases ht; rfl
  | case4 => cases ht; rfl

theorem reads_pieces (text : List Char) : Reads text (pieces text) := by
  fun_induction pieces text with
  | case1 => exact .nil
  | case2 text inner rest hlt hclosed ih => exact .placeholder (begins_of_closed? hclosed) ih
  | case3 text hclosed ih =>
      refine .char (fun inner rest hb => ?_) ih
      have hsplit : text = inner ++ '}' :: rest := by simpa using hb.text_eq
      obtain ⟨hlt, hsome⟩ := closed?_of_open hb.ne_nil hb.open_braces rest
      rw [hsplit, hsome] at hclosed
      cases hclosed
  | case4 c text hne ih =>
      refine .char (fun inner rest hb => ?_) ih
      have hsplit := hb.text_eq
      simp only [List.cons_append, List.cons.injEq] at hsplit
      exact hne _ hsplit.1 hsplit.2

/-- **The pieces of a text are those that are read.** -/
theorem reads_iff {text : List Char} {ps : List Piece} : Reads text ps ↔ ps = pieces text := by
  constructor
  · intro h
    induction h with
    | nil => rw [pieces]
    | placeholder hb _ ih => rw [pieces_of_begins hb, ih]
    | char hc _ ih => rw [pieces_of_not_begins hc, ih]
  · rintro rfl
    exact reads_pieces text

/-- A text that cannot hold a placeholder is read character by character. -/
theorem pieces_of_mayHold {text : List Char} (h : mayHold text = false) :
    pieces text = text.map .char := by
  fun_induction mayHold text with
  | case1 => cases h
  | case2 c text hne ih =>
      have hnot : ∀ inner rest, ¬ Begins inner rest (c :: text) := by
        intro inner rest hb
        have hsplit := hb.text_eq
        simp only [List.cons_append, List.cons.injEq] at hsplit
        exact hne _ hsplit.1 hsplit.2
      rw [pieces_of_not_begins hnot, ih h, List.map_cons]
  | case3 => rw [pieces, List.map_nil]

/-- A text with a placeholder may hold one. -/
theorem mayHold_of_mem {text inner : List Char} (h : Piece.placeholder inner ∈ pieces text) :
    mayHold text = true := by
  cases hhold : mayHold text with
  | true => rfl
  | false =>
      rw [pieces_of_mayHold hhold] at h
      simp at h

/-! ### References and fallbacks -/

namespace Placeholder

/-- What stands between the braces of a placeholder. -/
def inner (p : Placeholder) : List Char :=
  p.reference.toList ++ (p.fallback.map fun text => ':' :: text.toList).getD []

/-- A reference ends at the first colon. -/
theorem ofInner_inner {p : Placeholder} (h : ':' ∉ p.reference.toList) : ofInner p.inner = p := by
  obtain ⟨reference, fallback⟩ := p
  have hall : ∀ c ∈ reference.toList, (c != ':') = true := by
    intro c hc
    exact bne_iff_ne.mpr fun heq => h (heq ▸ hc)
  cases fallback with
  | none =>
      have htake : (reference.toList ++ []).takeWhile (· != ':') = _ :=
        List.takeWhile_append_of_pos hall
      have hdrop : (reference.toList ++ []).dropWhile (· != ':') = _ :=
        List.dropWhile_append_of_pos hall
      simp only [List.append_nil, List.takeWhile_nil, List.dropWhile_nil] at htake hdrop
      simp [ofInner, inner, htake, hdrop]
  | some text =>
      simp [ofInner, inner, List.takeWhile_append_of_pos hall, List.dropWhile_append_of_pos hall]

theorem inner_ofInner (cs : List Char) : (ofInner cs).inner = cs := by
  have hsplit := List.takeWhile_append_dropWhile (p := (· != ':')) (l := cs)
  have hhead := List.head?_dropWhile_not (p := (· != ':')) cs
  cases hdrop : cs.dropWhile (· != ':') with
  | nil =>
      rw [hdrop] at hsplit
      simpa [ofInner, inner, hdrop] using hsplit
  | cons c text =>
      -- what stops the reference is a colon
      rw [hdrop] at hsplit hhead
      have hc : c = ':' := by simpa using hhead
      rw [hc] at hsplit
      simpa [ofInner, inner, hdrop] using hsplit

theorem colon_notMem_reference (cs : List Char) : ':' ∉ (ofInner cs).reference.toList := by
  intro hmem
  rw [ofInner, String.toList_ofList] at hmem
  simpa using List.all_eq_true.mp List.all_takeWhile _ hmem

end Placeholder

end ServiceClient.Template

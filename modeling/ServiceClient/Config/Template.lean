/-
**Placeholders in texts.**

A placeholder is written between `${` and the next closing brace and holds at least one character.
It names a reference; after a colon it may give a text to fall back to.

Main definitions:

* `ServiceClient.Template.Piece`, `ServiceClient.Template.pieces`: a text taken apart;
* `ServiceClient.Template.Placeholder`: a reference and its fallback.

Main results:

* `ServiceClient.Template.written_pieces`: the pieces of a text make it up again.
-/

set_option autoImplicit false

namespace ServiceClient.Template

inductive Piece
  | char (c : Char)
  /-- What stands between the braces of a placeholder. -/
  | placeholder (inner : List Char)
  deriving DecidableEq, Repr, Inhabited

def Piece.written : Piece → List Char
  | .char c => [c]
  | .placeholder inner => '$' :: '{' :: inner ++ ['}']

/-- Splits a text at the brace that closes a placeholder, which holds something. -/
def closed? (cs : List Char) :
    Option (List Char × { rest : List Char // rest.length < cs.length }) :=
  match h : cs.dropWhile (· != '}') with
  | [] => none
  | _ :: rest =>
      if (cs.takeWhile (· != '}')).isEmpty then none
      else
        some (cs.takeWhile (· != '}'), ⟨rest, by
          have := (List.dropWhile_suffix (l := cs) (· != '}')).length_le
          rw [h] at this
          exact this⟩)

def pieces : List Char → List Piece
  | [] => []
  | '$' :: '{' :: text =>
      match closed? text with
      | some (inner, ⟨rest, _⟩) => .placeholder inner :: pieces rest
      | none => .char '$' :: pieces ('{' :: text)
  | c :: text => .char c :: pieces text
termination_by text => text.length

theorem eq_of_closed? {cs inner : List Char} {rest : { r : List Char // r.length < cs.length }}
    (h : closed? cs = some (inner, rest)) : cs = inner ++ '}' :: rest.1 := by
  unfold closed? at h
  split at h
  · simp at h
  · rename_i c rest' hd
    split at h
    · simp at h
    · obtain ⟨rfl, rfl⟩ := by simpa using h
      have hc : c = '}' := by
        have := List.head?_dropWhile_not (p := (· != '}')) cs
        rw [hd] at this
        simpa using this
      subst hc
      have := List.takeWhile_append_dropWhile (p := (· != '}')) (l := cs)
      rw [hd] at this
      exact this.symm

/-- The pieces of a text make it up again. -/
theorem written_pieces (cs : List Char) : (pieces cs).flatMap Piece.written = cs := by
  fun_induction pieces cs with
  | case1 => rfl
  | case2 text inner rest _ h ih =>
      have := eq_of_closed? h
      simp only [List.flatMap_cons, ih, Piece.written]
      simp [this]
  | case3 text h ih => simp [Piece.written, ih]
  | case4 c text _ ih => simp [Piece.written, ih]

/-- A placeholder: what it refers to, and the text to fall back to. -/
structure Placeholder where
  reference : String
  fallback : Option String
  deriving DecidableEq, Repr, Inhabited

/-- The placeholder of what stands between its braces. -/
def Placeholder.ofInner (inner : List Char) : Placeholder where
  reference := String.ofList (inner.takeWhile (· != ':'))
  fallback :=
    match inner.dropWhile (· != ':') with
    | _ :: fallback => some (String.ofList fallback)
    | [] => none

/-- Whether a text may hold a placeholder. -/
def mayHold : List Char → Bool
  | '$' :: '{' :: _ => true
  | _ :: rest => mayHold rest
  | [] => false

end ServiceClient.Template

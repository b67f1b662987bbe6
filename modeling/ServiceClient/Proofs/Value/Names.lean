/-
**Names of mappings.**

The name of an entry is its key, if that is a text.  What is put under a key changes nothing under
another name, and it brings no name twice.  A value in which no mapping has a name twice is called
*proper*; mappings inside of lists do not count, because no key leads there.

Main definitions:

* `ServiceClient.Value.names`: the names of entries;
* `ServiceClient.Value.Proper`: a value whose mappings have each name once.

Main results:

* `ServiceClient.Value.find?_put_of_ne`: what is put under a key changes nothing elsewhere;
* `ServiceClient.Value.find?_merge`: **what is found under a name of two layers**;
* `ServiceClient.Value.Proper.put`, `ServiceClient.Value.proper_ofEntries`: putting entries keeps a
  mapping proper.
-/

import ServiceClient.Value

set_option autoImplicit false

namespace ServiceClient.Value

/-! ### Keys that are texts -/

theorem sameKey_text_iff {k : Value} {name : String} :
    k.sameKey (.text name) = true ↔ k = .text name := by
  cases k <;> simp [sameKey, number?]

theorem text_sameKey_iff {k : Value} {name : String} :
    (Value.text name).sameKey k = true ↔ k = .text name := by
  cases k with
  | text s => simp [Eq.comm (a := name)]
  | _ => simp [sameKey, number?]

theorem find?_cons_self (name : String) (v : Value) (es : Entries) :
    find? (.text name) ((.text name, v) :: es) = some v := by
  simp [find?]

theorem find?_cons_of_ne {k : Value} {name : String} (h : k ≠ .text name) (v : Value)
    (es : Entries) : find? (.text name) ((k, v) :: es) = find? (.text name) es := by
  rw [find?, if_neg (fun hsame => h (sameKey_text_iff.mp hsame))]

/-- What is put under a key changes nothing under another name. -/
theorem find?_put_of_ne {k : Value} {name : String} (h : k ≠ .text name) (v : Value)
    (es : Entries) : find? (.text name) (put k v es) = find? (.text name) es := by
  induction es with
  | nil => rw [put, find?_cons_of_ne h]
  | cons e rest ih =>
      obtain ⟨k', w⟩ := e
      by_cases hsame : k'.sameKey k = true
      · rw [put, if_pos hsame]
        -- a text is the same key as no other value
        have hk' : k' ≠ .text name := by
          rintro rfl
          exact h (text_sameKey_iff.mp hsame)
        rw [find?_cons_of_ne hk', find?_cons_of_ne hk']
      · rw [put, if_neg hsame]
        by_cases hk' : k' = .text name
        · rw [hk', find?_cons_self, find?_cons_self]
        · rw [find?_cons_of_ne hk', find?_cons_of_ne hk', ih]

/-- What is found stands under its name. -/
theorem mem_of_find? {name : String} {v : Value} {es : Entries}
    (h : find? (.text name) es = some v) : (.text name, v) ∈ es := by
  induction es with
  | nil => cases h
  | cons e rest ih =>
      obtain ⟨k, w⟩ := e
      by_cases hk : k = .text name
      · rw [hk, find?_cons_self] at h
        rw [hk, Option.some.inj h]
        exact .head _
      · rw [find?_cons_of_ne hk] at h
        exact .tail _ (ih h)

/-! ### Names -/

def name? : Value → Option String
  | .text s => some s
  | _ => none

def names (es : Entries) : List String :=
  es.filterMap fun e => e.1.name?

theorem name?_eq_some {k : Value} {name : String} : k.name? = some name ↔ k = .text name := by
  cases k <;> simp [name?]

@[simp] theorem names_nil : names [] = [] := rfl

theorem names_cons (k v : Value) (es : Entries) :
    names ((k, v) :: es) = k.name?.toList ++ names es := by
  cases hk : k.name? <;> simp [names, hk]

/-- Nothing is found under a name that is none of the names. -/
theorem find?_eq_none {name : String} {es : Entries} (h : name ∉ names es) :
    find? (.text name) es = none := by
  induction es with
  | nil => rfl
  | cons e rest ih =>
      obtain ⟨k, v⟩ := e
      rw [names_cons, List.mem_append, not_or] at h
      have hk : k ≠ .text name := by
        rintro rfl
        exact h.1 (by simp [name?])
      rw [find?_cons_of_ne hk, ih h.2]

/-- Putting an entry keeps the names, or adds its own at the end. -/
theorem names_put (k v : Value) (es : Entries) :
    names (put k v es) = names es ∨
      names (put k v es) = names es ++ k.name?.toList ∧ ∀ name ∈ names es, k.name? ≠ some name := by
  induction es with
  | nil => exact .inr ⟨by simp [put, names_cons], by simp⟩
  | cons e rest ih =>
      obtain ⟨k', w⟩ := e
      by_cases hsame : k'.sameKey k = true
      · rw [put, if_pos hsame, names_cons, names_cons]
        exact .inl rfl
      · rw [put, if_neg hsame, names_cons, names_cons]
        rcases ih with hkeep | ⟨hadd, hnew⟩
        · exact .inl (by rw [hkeep])
        · refine .inr ⟨by rw [hadd, List.append_assoc], fun name hname hk => ?_⟩
          rcases List.mem_append.mp hname with hname | hname
          · -- two keys of one name are the same key
            rw [Option.mem_toList] at hname
            rw [name?_eq_some.mp hname, name?_eq_some.mp hk] at hsame
            simp at hsame
          · exact hnew name hname hk

theorem nodup_names_put {es : Entries} (h : (names es).Nodup) (k v : Value) :
    (names (put k v es)).Nodup := by
  rcases names_put k v es with hkeep | ⟨hadd, hnew⟩
  · rwa [hkeep]
  · rw [hadd]
    cases hk : k.name? with
    | none => simpa using h
    | some name =>
        refine List.nodup_append.mpr ⟨h, by simp, fun a ha b hb hab => ?_⟩
        rw [Option.toList_some, List.mem_singleton] at hb
        exact hnew a ha (by rw [hk, hab, hb])

/-- Every value of what an entry was put into is the one that was put or was there before. -/
theorem mem_put {k v : Value} {es : Entries} {e : Value × Value} (h : e ∈ put k v es) :
    e.2 = v ∨ ∃ e' ∈ es, e.2 = e'.2 := by
  induction es with
  | nil =>
      rw [put, List.mem_singleton] at h
      exact .inl (by rw [h])
  | cons e' rest ih =>
      obtain ⟨k', w⟩ := e'
      by_cases hsame : k'.sameKey k = true
      · rw [put, if_pos hsame] at h
        rcases List.mem_cons.mp h with rfl | h
        · exact .inl rfl
        · exact .inr ⟨e, .tail _ h, rfl⟩
      · rw [put, if_neg hsame] at h
        rcases List.mem_cons.mp h with rfl | h
        · exact .inr ⟨_, .head _, rfl⟩
        · rcases ih h with hv | ⟨e', he', heq⟩
          · exact .inl hv
          · exact .inr ⟨e', .tail _ he', heq⟩

/-! ### Two layers -/

@[simp] theorem overlay_mapping (lower upper : Entries) :
    overlay (some (.mapping lower)) (.mapping upper) = .mapping (merge lower upper) := rfl

theorem overlay_of_not_mapping {v : Value} (h : ∀ es, v ≠ .mapping es) (base : Option Value) :
    overlay base v = v := by
  cases v with
  | mapping es => exact absurd rfl (h es)
  | _ => rfl

/-- A mapping takes the place of what is no mapping. -/
theorem overlay_mapping_of_not {base : Option Value} (h : ∀ es, base ≠ some (.mapping es))
    (upper : Entries) : overlay base (.mapping upper) = .mapping upper := by
  unfold overlay
  split
  · rename_i lower
    exact absurd rfl (h lower)
  · rfl

/-- **What is found under a name of two layers**: what the upper one has, laid over what the lower
one has. -/
theorem find?_merge {upper : Entries} (h : (names upper).Nodup) (lower : Entries) (name : String) :
    find? (.text name) (merge lower upper) =
      match find? (.text name) upper with
      | none => find? (.text name) lower
      | some v => some (overlay (find? (.text name) lower) v) := by
  -- by induction on the upper layer; each of its entries is put into the lower one
  induction upper generalizing lower with
  | nil => rfl
  | cons e rest ih =>
      obtain ⟨k, v⟩ := e
      rw [names_cons] at h
      have hrest : (names rest).Nodup := (List.nodup_append.mp h).2.1
      rw [merge_cons, ih hrest]
      by_cases hk : k = .text name
      · subst hk
        have hnot : name ∉ names rest := by simpa [name?] using (List.nodup_cons.mp h).1
        rw [find?_eq_none hnot, find?_cons_self, find?_put_self]
      · rw [find?_cons_of_ne hk, find?_put_of_ne hk]

/-! ### Proper values -/

/-- A value whose mappings have each name once. -/
inductive Proper : Value → Prop
  | other {v : Value} : (∀ es, v ≠ .mapping es) → Proper v
  | mapping {es : Entries} : (names es).Nodup → (∀ e ∈ es, Proper e.2) → Proper (.mapping es)

theorem proper_list (items : List Value) : Proper (.list items) :=
  .other (by simp)

theorem proper_empty : Proper (.mapping []) :=
  .mapping (by simp) (by simp)

namespace Proper

variable {es : Entries}

theorem nodup (h : Proper (.mapping es)) : (names es).Nodup := by
  cases h with
  | other h => exact absurd rfl (h es)
  | mapping h _ => exact h

theorem value (h : Proper (.mapping es)) {e : Value × Value} (he : e ∈ es) : Proper e.2 := by
  cases h with
  | other h => exact absurd rfl (h es)
  | mapping _ h => exact h e he

theorem find? (h : Proper (.mapping es)) {name : String} {v : Value}
    (hfind : Value.find? (.text name) es = some v) : Proper v :=
  h.value (mem_of_find? hfind)

theorem put (h : Proper (.mapping es)) {v : Value} (hv : Proper v) (k : Value) :
    Proper (.mapping (put k v es)) := by
  refine .mapping (nodup_names_put h.nodup k v) fun e he => ?_
  rcases mem_put he with heq | ⟨e', he', heq⟩
  · rw [heq]
    exact hv
  · rw [heq]
    exact h.value he'

end Proper

/-- Entries that are written one over another make a proper mapping of proper values. -/
theorem proper_ofEntries {es : Entries} (h : ∀ e ∈ es, Proper e.2) :
    Proper (.mapping (ofEntries es)) := by
  have hall : ∀ (done rest : Entries), Proper (.mapping done) → (∀ e ∈ rest, Proper e.2) →
      Proper (.mapping (rest.foldl (fun done e => Value.put e.1 e.2 done) done)) := by
    intro done rest hdone hrest
    induction rest generalizing done with
    | nil => exact hdone
    | cons e rest ih =>
        exact ih _ (hdone.put (hrest e (.head _)) e.1) fun e' he' => hrest e' (.tail _ he')
  exact hall [] es proper_empty h

end ServiceClient.Value

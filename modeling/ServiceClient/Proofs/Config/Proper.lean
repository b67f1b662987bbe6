/-
**Files are read as proper values.**

What a file of a configuration is read as has no name twice in any mapping that a key leads to.
Both formats put the entries of a mapping one after another: YAML writes a later entry over an
earlier one for the same key, and TOML only changes what is found under a name.

Main results:

* `ServiceClient.Yaml.proper_read`: a YAML text is read as a proper value;
* `ServiceClient.Toml.proper_read`: so is a TOML text;
* `ServiceClient.FileFormat.proper_read`: **a file is read as a proper value**.
-/

import ServiceClient.Config.Folder
import ServiceClient.Proofs.Value.Names

set_option autoImplicit false

namespace ServiceClient

open Value

/-! ### Steps that may fail -/

section Steps

variable {α β ε ε' : Type}

/-- If two steps succeed, the first one does and the second one does after it. -/
theorem ok_of_bind {x : Except ε α} {f : α → Except ε β} {b : β} (h : x >>= f = .ok b) :
    ∃ a, x = .ok a ∧ f a = .ok b := by
  cases x with
  | error e => cases h
  | ok a => exact ⟨a, rfl, h⟩

theorem ok_of_map {x : Except ε α} {f : α → β} {b : β} (h : x.map f = .ok b) :
    ∃ a, x = .ok a ∧ f a = b := by
  cases x with
  | error e => cases h
  | ok a => exact ⟨a, rfl, Except.ok.inj h⟩

theorem ok_of_mapError {x : Except ε α} {f : ε → ε'} {a : α} (h : x.mapError f = .ok a) :
    x = .ok a := by
  cases x with
  | error e => cases h
  | ok a' => rw [Except.ok.inj h]

end Steps

/-! ### YAML -/

namespace Yaml

/-- A scalar is no mapping. -/
theorem proper_scalarValue {tag : Tag} {text : String} {v : Value}
    (h : scalarValue tag text = .ok v) : v.Proper := by
  refine .other fun es => ?_
  rintro rfl
  cases tag with
  | bool =>
      rw [scalarValue, truth] at h
      split at h <;> cases h
  | int =>
      obtain ⟨_, _, h⟩ := ok_of_bind h
      obtain ⟨_, _, h⟩ := ok_of_bind h
      cases h
  | float =>
      obtain ⟨⟨negative, body⟩, _, h⟩ := ok_of_bind h
      dsimp only at h
      split at h
      · cases h
      · split at h
        · cases h
        · obtain ⟨parts, _, h⟩ := ok_of_bind h
          split at h <;> cases h
  | binary =>
      rw [scalarValue, binary] at h
      split at h
      · split at h <;> cases h
      · cases h
  | timestamp =>
      rw [scalarValue, timestamp] at h
      split at h
      · cases h
      · split at h <;> cases h
  | _ => cases h

theorem ok_of_both {α β : Type} {x : Leveled α} {y : Leveled β} {a : α} {b : β}
    (h : x.both y = .ok (a, b)) : x = .ok a ∧ y = .ok b := by
  cases x with
  | ok a' =>
      cases y with
      | ok b' => cases h; exact ⟨rfl, rfl⟩
      | error e => cases h
  | error e =>
      cases y with
      | ok b' => cases h
      | error e' =>
          rw [Leveled.both] at h
          split at h <;> cases h

/-- Many parts are put together of those that succeeded. -/
theorem mem_of_all {α : Type} {rs : List (Leveled α)} {as : List α} (h : Leveled.all rs = .ok as)
    {a : α} (ha : a ∈ as) : .ok a ∈ rs := by
  induction rs generalizing as with
  | nil => cases h; cases ha
  | cons r rest ih =>
      obtain ⟨⟨first, more⟩, hboth, rfl⟩ := ok_of_map h
      obtain ⟨hr, hrest⟩ := ok_of_both hboth
      rcases List.mem_cons.mp ha with rfl | ha
      · rw [hr]
        exact .head _
      · exact .tail _ (ih hrest ha)

/-- Entries whose values are proper, as far as they can be put together. -/
def Sound (rs : List (Leveled (Value × Value))) : Prop :=
  ∀ e, .ok e ∈ rs → e.2.Proper

theorem sound_nil : Sound [] := by
  intro e h
  cases h

theorem sound_append {rs rs' : List (Leveled (Value × Value))} (h : Sound rs) (h' : Sound rs') :
    Sound (rs ++ rs') := by
  intro e he
  rcases List.mem_append.mp he with he | he
  · exact h e he
  · exact h' e he

namespace Node

theorem sound_keyed {level : Nat} {k v : Leveled Value} (h : ∀ w, v = .ok w → w.Proper) :
    Sound [keyed level k v] := by
  intro e he
  rw [List.mem_singleton] at he
  exact h e.2 (ok_of_both he.symm).2

/-- Sound entries, put together, make a proper mapping. -/
theorem proper_put {level : Nat} {entries : List (Node × Node)} {es : Entries}
    (hall : ∀ r, entriesAt level entries = .ok r → Sound r.1 ∧ Sound r.2)
    (h : (do
      let (merged, own) ← atLevel level (entriesAt level entries)
      let pairs ← Leveled.all (merged ++ own)
      pure (Value.ofEntries pairs) : Leveled Entries) = .ok es) :
    (Value.mapping es).Proper := by
  obtain ⟨⟨merged, own⟩, hentries, h⟩ := ok_of_bind h
  obtain ⟨pairs, hpairs, h⟩ := ok_of_bind h
  rw [← Except.ok.inj h]
  obtain ⟨hmerged, hown⟩ := hall _ (ok_of_mapError hentries)
  exact proper_ofEntries fun e he => sound_append hmerged hown e (mem_of_all hpairs he)

/-- An entry merges its value, or stands for itself under some key. -/
theorem exists_entryAt (level : Nat) (k v : Node) :
    ∃ key : Leveled Value, entryAt level (k, v) =
      if k.tag = .merge then (do pure (← mergedAt level v, []))
      else .ok ([], [keyed level key (valueAt level v)]) := by
  cases k with
  | scalar tag s =>
      cases tag with
      | merge => exact ⟨.error (level, malformed), rfl⟩
      | _ => exact ⟨_, rfl⟩
  | sequence tag items => exact ⟨valueAt level (.sequence tag items), rfl⟩
  | mapping tag entries => exact ⟨valueAt level (.mapping tag entries), rfl⟩

mutual

/-- By recursion on the node: the values of entries are proper, so a mapping is. -/
theorem proper_valueAt (level : Nat) : ∀ (n : Node) (v : Value), n.valueAt level = .ok v → v.Proper
  | .scalar tag s, v, h => proper_scalarValue (ok_of_mapError h)
  | .sequence tag items, v, h => by
      cases tag with
      | sequence | orderedMapping | pairs =>
          obtain ⟨vs, _, rfl⟩ := ok_of_map h
          exact proper_list vs
      | _ => cases h
  | .mapping tag entries, v, h => by
      cases tag with
      | mapping =>
          obtain ⟨es, hes, rfl⟩ := ok_of_map h
          exact proper_put (sound_entriesAt (level + 1) entries) hes
      | set =>
          obtain ⟨es, _, rfl⟩ := ok_of_map h
          exact .other (by simp)
      | sequence | orderedMapping | pairs => cases h
      | _ =>
          -- any other tag makes a scalar of the text under the default key
          have h : (match defaultText? entries with
            | some s => atLevel level (scalarValue _ s)
            | none => .error (level, malformed)) = .ok v := h
          split at h
          · exact proper_scalarValue (ok_of_mapError h)
          · cases h

theorem sound_entriesAt (level : Nat) : ∀ (entries : List (Node × Node))
    (r : List (Leveled (Value × Value)) × List (Leveled (Value × Value))),
    entriesAt level entries = .ok r → Sound r.1 ∧ Sound r.2
  | [], r, h => by
      cases h
      exact ⟨sound_nil, sound_nil⟩
  | e :: rest, r, h => by
      obtain ⟨first, hfirst, h⟩ := ok_of_bind h
      obtain ⟨more, hmore, h⟩ := ok_of_bind h
      cases h
      have hentry := sound_entryAt level e first hfirst
      have hrest := sound_entriesAt level rest more hmore
      exact ⟨sound_append hentry.1 hrest.1, sound_append hentry.2 hrest.2⟩

theorem sound_entryAt (level : Nat) : ∀ (e : Node × Node)
    (r : List (Leveled (Value × Value)) × List (Leveled (Value × Value))),
    entryAt level e = .ok r → Sound r.1 ∧ Sound r.2
  | (k, v), r, h => by
      obtain ⟨key, hentry⟩ := exists_entryAt level k v
      rw [hentry] at h
      split at h
      · obtain ⟨merged, hmerged, h⟩ := ok_of_bind h
        cases h
        exact ⟨sound_mergedAt level v merged hmerged, sound_nil⟩
      · cases h
        exact ⟨sound_nil, sound_keyed fun w => proper_valueAt level v w⟩

theorem sound_mergedAt (level : Nat) : ∀ (n : Node) (rs : List (Leveled (Value × Value))),
    mergedAt level n = .ok rs → Sound rs
  | .mapping _ entries, rs, h => by
      obtain ⟨r, hr, h⟩ := ok_of_bind h
      cases h
      have hentries := sound_entriesAt level entries r hr
      exact sound_append hentries.1 hentries.2
  | .sequence _ items, rs, h => by
      obtain ⟨groups, hgroups, h⟩ := ok_of_bind h
      cases h
      intro e he
      obtain ⟨group, hgroup, he⟩ := List.mem_flatten.mp he
      exact sound_mergedItemsAt level items groups hgroups group (List.mem_reverse.mp hgroup) e he
  | .scalar .., _, h => by cases h

theorem sound_mergedItemsAt (level : Nat) : ∀ (ns : List Node)
    (groups : List (List (Leveled (Value × Value)))),
    mergedItemsAt level ns = .ok groups → ∀ group ∈ groups, Sound group
  | [], _, h => by
      cases h
      intro group hgroup
      cases hgroup
  | n :: rest, _, h => by
      obtain ⟨first, hfirst, h⟩ := ok_of_bind h
      obtain ⟨more, hmore, h⟩ := ok_of_bind h
      cases h
      intro group hgroup
      rcases List.mem_cons.mp hgroup with rfl | hgroup
      · exact sound_mergedItemAt level n _ hfirst
      · exact sound_mergedItemsAt level rest more hmore group hgroup

theorem sound_mergedItemAt (level : Nat) : ∀ (n : Node) (rs : List (Leveled (Value × Value))),
    mergedItemAt level n = .ok rs → Sound rs
  | .mapping _ entries, rs, h => by
      obtain ⟨r, hr, h⟩ := ok_of_bind h
      cases h
      have hentries := sound_entriesAt level entries r hr
      exact sound_append hentries.1 hentries.2
  | .sequence .., _, h => by cases h
  | .scalar .., _, h => by cases h

end

end Node

/-- A YAML text is read as a proper value. -/
theorem proper_read {text : List Char} {v : Value} (h : read text = .ok v) : v.Proper := by
  obtain ⟨node, _, h⟩ := ok_of_bind h
  cases node with
  | none => cases h; exact .other (by simp)
  | some n => exact n.proper_valueAt 0 v (ok_of_mapError h)

end Yaml

/-! ### TOML -/

namespace Toml

/-- What keeps a table proper at the end of a key keeps the table proper where the key begins. -/
theorem proper_update? {throughLists : Bool} {change : Entries → Option Entries}
    (hchange : ∀ es es', change es = some es' → (Value.mapping es).Proper →
      (Value.mapping es').Proper)
    (k : Key) (es es' : Entries) (h : update? throughLists change k es = some es')
    (hes : (Value.mapping es).Proper) : (Value.mapping es').Proper := by
  induction k generalizing es es' with
  | nil => exact hchange es es' h hes
  | cons name rest ih =>
      rw [update?] at h
      -- the way leads into a missing table, into one that is there, or into the last one of a list
      split at h
      · obtain ⟨v, hv, h⟩ := Option.bind_eq_some_iff.mp h
        obtain ⟨inner', hinner', rfl⟩ := Option.map_eq_some_iff.mp hv
        rw [← Option.some.inj h]
        exact hes.put (ih [] inner' hinner' proper_empty) _
      · rename_i inner hfind
        obtain ⟨v, hv, h⟩ := Option.bind_eq_some_iff.mp h
        obtain ⟨inner', hinner', rfl⟩ := Option.map_eq_some_iff.mp hv
        rw [← Option.some.inj h]
        exact hes.put (ih inner inner' hinner' (hes.find? hfind)) _
      · split at h
        · obtain ⟨v, hv, h⟩ := Option.bind_eq_some_iff.mp h
          obtain ⟨inner', _, rfl⟩ := Option.map_eq_some_iff.mp hv
          rw [← Option.some.inj h]
          exact hes.put (proper_list _) _
        · cases h
      · cases h

theorem proper_putNew {name : String} {v : Value} (hv : v.Proper) (es es' : Entries)
    (h : putNew name v es = some es') (hes : (Value.mapping es).Proper) :
    (Value.mapping es').Proper := by
  rw [putNew] at h
  split at h
  · cases h
    exact hes.put hv _
  · cases h

theorem proper_addTable {name : String} (es es' : Entries)
    (h : addTable name es = some es') (hes : (Value.mapping es).Proper) :
    (Value.mapping es').Proper := by
  rw [addTable] at h
  split at h
  · cases h
    exact hes.put (proper_list _) _
  · cases h
    exact hes.put (proper_list _) _
  · cases h

theorem proper_putInline {k : Key} {v : Value} {closed : Namespace} {es es' : Entries}
    (h : putInline k v closed es = .ok es') (hv : v.Proper) (hes : (Value.mapping es).Proper) :
    (Value.mapping es').Proper := by
  rw [putInline] at h
  split at h
  · split at h
    · rename_i hupdate
      cases h
      exact proper_update? (proper_putNew hv) _ _ _ hupdate hes
    · cases h
  · cases h

theorem proper_basedNumber? {cs rest : List Char} {v : Value}
    (h : basedNumber? cs = some (v, rest)) : v.Proper := by
  unfold basedNumber? at h
  split at h
  · split at h
    · split at h <;> cases h
      exact .other (by simp)
    · cases h
  · cases h

theorem proper_number? {cs rest : List Char} {v : Value} (h : number? cs = some (.ok (v, rest))) :
    v.Proper := by
  unfold number? at h
  split at h
  · rename_i r hbased
    cases h
    exact proper_basedNumber? hbased
  · dsimp only at h
    split at h
    · cases h
    · -- a floating-point number, one that is too long, or an integer
      split at h
      · cases h
        exact .other (by simp)
      · split at h <;> cases h
        exact .other (by simp)

theorem proper_namedNumber? {cs rest : List Char} {v : Value}
    (h : namedNumber? cs = some (v, rest)) : v.Proper := by
  obtain ⟨⟨name, x⟩, _, hx⟩ := List.exists_of_findSome?_eq_some h
  obtain ⟨rest', _, hv⟩ := Option.map_eq_some_iff.mp hx
  cases hv
  exact .other (by simp)

theorem proper_moment? {cs rest : List Char} {v : Value} (h : moment? cs = some (.ok (v, rest))) :
    v.Proper := by
  unfold moment? at h
  split at h
  · dsimp only at h
    split at h
    · cases h
      exact .other (by simp)
    · cases h
  · obtain ⟨r, _, hv⟩ := Option.map_eq_some_iff.mp h
    cases hv
    exact .other (by simp)

theorem proper_simpleValue {cs rest : List Char} {v : Value}
    (h : simpleValue cs = .ok (v, rest)) : v.Proper := by
  unfold simpleValue at h
  split at h
  · obtain ⟨r, _, hv⟩ := ok_of_map h
    cases hv
    exact .other (by simp)
  · split at h
    · cases h
      exact .other (by simp)
    · cases h
      exact .other (by simp)
    · cases hm : moment? cs with
      | some r =>
          rw [hm] at h
          exact proper_moment? (hm.trans (congrArg some h))
      | none =>
          rw [hm] at h
          cases hn : number? cs with
          | some r =>
              rw [hn] at h
              exact proper_number? (hn.trans (congrArg some h))
          | none =>
              rw [hn] at h
              cases hnamed : namedNumber? cs with
              | none => rw [hnamed] at h; cases h
              | some r =>
                  rw [hnamed] at h
                  cases h
                  exact proper_namedNumber? hnamed

mutual

/-- By recursion on the fuel: an inline table is filled by putting proper values. -/
theorem proper_value : ∀ (fuel : Nat) (cs rest : List Char) (v : Value),
    value fuel cs = .ok (v, rest) → v.Proper
  | 0, _, _, _, h => by cases h
  | fuel + 1, cs, rest, v, h => by
      unfold value at h
      split at h
      · obtain ⟨cs', _, h⟩ := ok_of_bind h
        split at h
        · cases h
          exact proper_list _
        · obtain ⟨r, _, h⟩ := ok_of_bind h
          cases h
          exact proper_list _
      · split at h
        · cases h
          exact proper_empty
        · obtain ⟨⟨es, rest'⟩, hpairs, h⟩ := ok_of_map h
          cases h
          exact proper_inlinePairs fuel _ [] [] es _ hpairs proper_empty
      · exact proper_simpleValue h

theorem proper_inlinePairs : ∀ (fuel : Nat) (cs : List Char) (closed : Namespace)
    (es es' : Entries) (rest : List Char), inlinePairs closed es fuel cs = .ok (es', rest) →
    (Value.mapping es).Proper → (Value.mapping es').Proper
  | 0, _, _, _, _, _, h, _ => by cases h
  | fuel + 1, cs, closed, es, es', rest, h, hes => by
      unfold inlinePairs at h
      obtain ⟨⟨k, cs₁⟩, _, h⟩ := ok_of_bind h
      dsimp only at h
      split at h
      · obtain ⟨⟨v, cs₂⟩, hv, h⟩ := ok_of_bind h
        obtain ⟨es₁, hput, h⟩ := ok_of_bind h
        have hes₁ := proper_putInline hput (proper_value fuel _ cs₂ v hv) hes
        split at h
        · cases h
          exact hes₁
        · exact proper_inlinePairs fuel _ _ es₁ es' rest h hes₁
        · cases h
      · cases h

end

namespace Document

/-- A document whose root is proper. -/
def Sound (d : Document) : Prop :=
  (Value.mapping d.root).Proper

theorem sound_declareTable {k : Key} {d d' : Document} (h : d.declareTable k = .ok d')
    (hd : d.Sound) : d'.Sound := by
  unfold declareTable at h
  dsimp only at h
  split at h
  · cases h
  · split at h
    · rename_i hroot
      cases h
      exact proper_update? (fun _ _ hsame hes => Option.some.inj hsame ▸ hes) k _ _ hroot hd
    · cases h

theorem sound_addToList {k : Key} {d d' : Document} (h : d.addToList k = .ok d') (hd : d.Sound) :
    d'.Sound := by
  unfold addToList at h
  dsimp only at h
  split at h
  · cases h
  · split at h
    · rename_i hroot
      cases h
      obtain ⟨name, _, hroot⟩ := Option.bind_eq_some_iff.mp hroot
      exact proper_update? proper_addTable _ _ _ hroot hd
    · cases h

theorem sound_assign {k : Key} {v : Value} {d d' : Document} (h : d.assign k v = .ok d')
    (hv : v.Proper) (hd : d.Sound) : d'.Sound := by
  unfold assign at h
  dsimp only at h
  split at h
  · cases h
  · split at h
    · rename_i hroot
      cases h
      obtain ⟨name, _, hroot⟩ := Option.bind_eq_some_iff.mp hroot
      exact proper_update? (proper_putNew hv) _ _ _ hroot hd
    · cases h

/-- One statement keeps a document sound. -/
theorem sound_statement {cs rest : List Char} {d d' : Document}
    (h : d.statement cs = .ok (d', rest)) (hd : d.Sound) : d'.Sound := by
  unfold statement at h
  split at h
  · obtain ⟨⟨k, cs₁⟩, _, h⟩ := ok_of_bind h
    dsimp only at h
    split at h
    · obtain ⟨d₁, hadd, h⟩ := ok_of_bind h
      cases h
      exact sound_addToList hadd hd
    · cases h
  · obtain ⟨⟨k, cs₁⟩, _, h⟩ := ok_of_bind h
    dsimp only at h
    split at h
    · obtain ⟨d₁, hdeclare, h⟩ := ok_of_bind h
      cases h
      exact sound_declareTable hdeclare hd
    · cases h
  · cases h
    exact hd
  · cases h
    exact hd
  · cases h
    exact hd
  · obtain ⟨⟨k, cs₁⟩, _, h⟩ := ok_of_bind h
    dsimp only at h
    split at h
    · obtain ⟨⟨v, cs₂⟩, hv, h⟩ := ok_of_bind h
      obtain ⟨d₁, hassign, h⟩ := ok_of_bind h
      cases h
      exact sound_assign hassign (proper_value _ _ _ v hv) hd
    · cases h

/-- All statements keep a document sound. -/
theorem sound_statements {fuel : Nat} {cs : List Char} {d d' : Document}
    (h : statements fuel cs d = .ok d') (hd : d.Sound) : d'.Sound := by
  induction fuel generalizing cs d with
  | zero => cases h; exact hd
  | succ fuel ih =>
      obtain ⟨⟨d₁, rest⟩, hstatement, h⟩ := ok_of_bind h
      have hd₁ := sound_statement hstatement hd
      obtain ⟨rest', _, h⟩ := ok_of_bind h
      split at h
      · cases h
        exact hd₁
      · exact ih h hd₁
      · cases h

end Document

/-- A TOML text is read as a proper value. -/
theorem proper_read {text : List Char} {v : Value} (h : read text = .ok v) : v.Proper := by
  obtain ⟨d, hd, h⟩ := ok_of_bind h
  cases h
  exact Document.sound_statements hd proper_empty

end Toml

/-! ### Files -/

/-- **A file is read as a proper value.** -/
theorem FileFormat.proper_read {format : FileFormat} {content : List UInt8} {v : Value}
    (h : format.read content = .ok v) : v.Proper := by
  unfold read at h
  split at h
  · cases h
  · split at h
    · exact Toml.proper_read h
    · obtain ⟨w, hw, h⟩ := ok_of_bind h
      cases h
      split
      · exact proper_empty
      · exact Yaml.proper_read hw

end ServiceClient

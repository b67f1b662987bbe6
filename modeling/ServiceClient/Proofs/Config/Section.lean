/-
**What is read into the section of a client.**

Properties are bound from the entries of a section, over which each field is written as it is read
from its key.  A field that is read as null is not written; then the section itself tells what is
there.  So every field is found as it was read, or else as it stands in the section, and the value
at its key is what stands in the section.

Main definitions:

* `ServiceClient.Value.given?`: a value, unless it is null.

Main results:

* `ServiceClient.Config.lookup_field`: the value at the key of a field is that of the section;
* `ServiceClient.Config.find?_clientEntries`: **a field is found as it is read, or as it stands in
  the section**;
* `ServiceClient.Config.find?_bytes_iff`: bytes are found where they stand in the tree, unless a
  variable is set before them.
-/

import ServiceClient.Proofs.Config.Binding

set_option autoImplicit false

namespace ServiceClient

def Value.given? : Value → Option Value
  | .null => none
  | v => some v

theorem Value.given?_eq_some {v w : Value} : v.given? = some w ↔ v = w ∧ w ≠ .null := by
  cases v <;> simp [given?] <;> rintro rfl <;> simp

namespace Config

variable {c : Config} {env : Environment} {es es' : Value.Entries} {field : String}

/-! ### One field -/

/-- What is read into the entries is a value that can be read. -/
theorem addField_ok (h : c.addField env es field = .ok es') :
    ∃ v, c.get env (clientKey ++ "." ++ field) .null = .ok v ∧
      es' = v.given?.elim es fun v => Value.put (.text field) v es := by
  rw [addField] at h
  cases hget : c.get env (clientKey ++ "." ++ field) .null with
  | error f =>
      rw [hget] at h
      cases h
  | ok v =>
      rw [hget] at h
      refine ⟨v, rfl, ?_⟩
      cases v <;> cases h <;> rfl

/-- A field is found as it is read, or else as it stood before. -/
theorem find?_addField (h : c.addField env es field = .ok es') :
    (∃ v, c.get env (clientKey ++ "." ++ field) .null = .ok v ∧
      Value.find? (.text field) es' = v.given?.or (Value.find? (.text field) es)) ∧
    ∀ name, name ≠ field → Value.find? (.text name) es' = Value.find? (.text name) es := by
  obtain ⟨v, hget, rfl⟩ := addField_ok h
  cases hgiven : v.given? with
  | none => exact ⟨⟨v, hget, by rw [hgiven]; rfl⟩, fun _ _ => rfl⟩
  | some w =>
      refine ⟨⟨v, hget, by rw [hgiven]; exact Value.find?_put_self field w es⟩, fun name hname => ?_⟩
      have hother : Value.text field ≠ .text name := by
        rintro ⟨⟩
        exact hname rfl
      exact Value.find?_put_of_ne hother w es

/-! ### All fields -/

/-- Each of different fields is found as it is read, or else as it stood before. -/
theorem find?_foldlM_addField {fields : List String} (hdistinct : fields.Nodup)
    (h : fields.foldlM (c.addField env) es = .ok es') :
    (∀ field ∈ fields, ∃ v, c.get env (clientKey ++ "." ++ field) .null = .ok v ∧
      Value.find? (.text field) es' = v.given?.or (Value.find? (.text field) es)) ∧
    ∀ name, name ∉ fields → Value.find? (.text name) es' = Value.find? (.text name) es := by
  induction fields generalizing es with
  | nil =>
      cases h
      exact ⟨nofun, fun _ _ => rfl⟩
  | cons field rest ih =>
      obtain ⟨hnew, hrest⟩ := List.nodup_cons.mp hdistinct
      rw [List.foldlM_cons] at h
      cases hfirst : c.addField env es field with
      | error f =>
          rw [hfirst] at h
          cases h
      | ok mid =>
          rw [hfirst] at h
          obtain ⟨⟨v, hget, hfound⟩, hkept⟩ := find?_addField hfirst
          obtain ⟨hread, hlater⟩ := ih hrest h
          refine ⟨fun f hf => ?_, fun name hname => ?_⟩
          · rcases List.mem_cons.mp hf with rfl | hrest
            · exact ⟨v, hget, by rw [hlater f hnew, hfound]⟩
            · -- the first field is another one
              have hne : f ≠ field := by
                rintro rfl
                exact hnew hrest
              obtain ⟨w, hw, hfound'⟩ := hread f hrest
              exact ⟨w, hw, by rw [hfound', hkept f hne]⟩
          · rw [List.mem_cons, not_or] at hname
            rw [hlater name hname.2, hkept name hname.1]

/-- **A field is found as it is read, or as it stands in the section.** -/
theorem find?_clientEntries (h : c.clientEntries env = .ok es) (hfield : field ∈ Properties.fields) :
    ∃ v, c.get env (clientKey ++ "." ++ field) .null = .ok v ∧
      Value.find? (.text field) es = v.given?.or (Value.find? (.text field) (c.part clientKey)) := by
  rw [clientEntries_eq] at h
  exact (find?_foldlM_addField (by decide) h).1 field hfield

/-- The value at the key of a field is that of the section. -/
theorem lookup_field (hfield : field ∈ Properties.fields) :
    c.lookup (clientKey ++ "." ++ field) =
      (Value.find? (.text field) (c.part clientKey)).getD .null := by
  have hnames : ∀ f ∈ Properties.fields, names (clientKey ++ "." ++ f) = names clientKey ++ [f] := by
    decide +kernel
  rw [lookup, hnames field hfield, List.foldl_append]
  rfl

/-! ### Kinds of values -/

/-- A text, or what stands at the key, is read. -/
theorem get_cases {key : String} {v : Value} (h : c.get env key .null = .ok v) :
    (∃ text, v = .text text) ∨ v = c.lookup key := by
  rw [get] at h
  cases hvar : env.get? (Environment.override key) with
  | some text =>
      rw [hvar] at h
      cases h
      exact .inl ⟨text, rfl⟩
  | none =>
      rw [hvar] at h
      generalize c.lookup key = stored at h
      cases stored with
      | text text =>
          simp only at h
          split at h
          · cases hresolve : c.resolve env text with
            | error f =>
                rw [hresolve] at h
                cases h
            | ok out =>
                rw [hresolve] at h
                cases h
                exact .inl ⟨out, rfl⟩
          · cases h
            exact .inl ⟨text, rfl⟩
      | _ =>
          cases h
          exact .inr rfl

/-- **Bytes are found where they stand in the tree**, unless a variable is set before them. -/
theorem find?_bytes_iff (h : c.clientEntries env = .ok es) (hfield : field ∈ Properties.fields)
    {bs : List UInt8} :
    Value.find? (.text field) es = some (.bytes bs) ↔
      env.get? (Environment.override (clientKey ++ "." ++ field)) = none ∧
        c.lookup (clientKey ++ "." ++ field) = .bytes bs := by
  obtain ⟨v, hget, hread⟩ := find?_clientEntries h hfield
  rw [hread]
  cases hvar : env.get? (Environment.override (clientKey ++ "." ++ field)) with
  | some text =>
      -- a variable is read as a text
      rw [get_of_override hvar] at hget
      cases hget
      simp [Value.given?]
  | none =>
      refine ⟨fun hfound => ⟨rfl, ?_⟩, fun ⟨_, hstored⟩ => ?_⟩
      · rcases Option.or_eq_some_iff.mp hfound with hgiven | ⟨-, hsection⟩
        · obtain ⟨rfl, -⟩ := Value.given?_eq_some.mp hgiven
          rcases get_cases hget with ⟨text, htext⟩ | hstored
          · cases htext
          · exact hstored.symm
        · rw [lookup_field hfield, hsection]
          rfl
      · rw [get, hvar, hstored] at hget
        cases hget
        rfl

end Config

end ServiceClient

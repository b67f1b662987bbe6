/-
**Header maps as maps.**

Writing a header leaves the names of a map pairwise different, so a header that can be looked up is
the only one of its name.

Main results:

* `ServiceClient.HeaderMap.nodup_put`, `ServiceClient.HeaderMap.nodup_describe`: names stay
  pairwise different;
* `ServiceClient.HeaderMap.filter_of_get?`: the header that is looked up is the only one;
* `ServiceClient.HeaderMap.get?_describe_length`: the length of the body is among the headers of a
  call.
-/

import ServiceClient.Header

set_option autoImplicit false

namespace ServiceClient.HeaderMap

def names (headers : HeaderMap) : List String :=
  headers.map (·.1)

theorem mem_names_put {name other value : String} {headers : HeaderMap}
    (h : other ∈ names (put name value headers)) : other = name ∨ other ∈ names headers := by
  induction headers with
  | nil => exact .inl (by simpa [put, names] using h)
  | cons p rest ih =>
      obtain ⟨n, v⟩ := p
      by_cases hn : n = name
      · rw [put, if_pos hn] at h
        exact .inr h
      · rw [put, if_neg hn] at h
        rcases List.mem_cons.mp h with rfl | h
        · exact .inr (.head _)
        · exact (ih h).imp id (.tail _)

theorem nodup_put (name value : String) {headers : HeaderMap} (h : (names headers).Nodup) :
    (names (put name value headers)).Nodup := by
  induction headers with
  | nil => simp [put, names]
  | cons p rest ih =>
      obtain ⟨n, v⟩ := p
      obtain ⟨hnot, hrest⟩ := List.nodup_cons.mp h
      by_cases hn : n = name
      · rw [put, if_pos hn]
        exact h
      · rw [put, if_neg hn]
        refine List.nodup_cons.mpr ⟨fun hmem => ?_, ih hrest⟩
        rcases mem_names_put hmem with heq | hmem
        · exact hn heq
        · exact hnot hmem

theorem nodup_putSome (name : String) (value : Option String) {headers : HeaderMap}
    (h : (names headers).Nodup) : (names (putSome name value headers)).Nodup := by
  cases value with
  | none => exact h
  | some v => exact nodup_put name v h

/-- The headers of a call have pairwise different names if those of the caller have. -/
theorem nodup_describe {given : Option HeaderMap} (length : Int)
    (content accepted : Option MediaType) (h : (names (given.getD [])).Nodup) :
    (names (describe given length content accepted)).Nodup :=
  nodup_putSome _ _ (nodup_putSome _ _ (nodup_putSome _ _ h))

theorem mem_of_get? {name value : String} {headers : HeaderMap}
    (h : get? name headers = some value) : (name, value) ∈ headers := by
  induction headers with
  | nil => simp at h
  | cons p rest ih =>
      obtain ⟨n, v⟩ := p
      by_cases hn : n = name
      · rw [get?, if_pos hn] at h
        obtain rfl := Option.some.inj h
        rw [hn]
        exact .head _
      · rw [get?, if_neg hn] at h
        exact .tail _ (ih h)

/-- The header that is looked up is the only one of its name. -/
theorem filter_of_get? {name value : String} {headers : HeaderMap} (h : (names headers).Nodup)
    (hget : get? name headers = some value) :
    headers.filter (·.1 == name) = [(name, value)] := by
  induction headers with
  | nil => simp at hget
  | cons p rest ih =>
      obtain ⟨n, v⟩ := p
      obtain ⟨hnot, hrest⟩ := List.nodup_cons.mp h
      by_cases hn : n = name
      · rw [get?, if_pos hn] at hget
        obtain rfl := Option.some.inj hget
        -- another header of the name would repeat it
        have hnone : rest.filter (·.1 == name) = [] := by
          refine List.filter_eq_nil_iff.mpr fun q hq hname => hnot ?_
          have hsame : q.1 = n := (beq_iff_eq.mp hname).trans hn.symm
          exact List.mem_map.mpr ⟨q, hq, hsame⟩
        rw [List.filter_cons_of_pos (by simpa using hn), hnone, hn]
      · rw [get?, if_neg hn] at hget
        rw [List.filter_cons_of_neg (by simpa using hn), ih hrest hget]

/-- The length of the body is among the headers of a call. -/
theorem get?_describe_length (given : Option HeaderMap) (length : Nat)
    (content accepted : Option MediaType) :
    get? contentLength (describe given length content accepted) = some (toString length) := by
  have hlength : (length : Int) > -1 := by omega
  simp only [describe, if_pos hlength, putSome]
  exact get?_put_self _ _ _

end ServiceClient.HeaderMap

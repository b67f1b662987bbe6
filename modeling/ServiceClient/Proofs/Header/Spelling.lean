/-
**Header names in any spelling.**

A header map tells names apart by case; the service does not.  So a header that is written joins one
that the caller spells otherwise instead of taking its place, and both are sent.  The headers of a
call are unambiguous exactly if the caller leaves room for those that are computed: whatever the
caller calls by one of their names is spelled as they are, and no length is given for a call without
a body.

Main definitions:

* `ServiceClient.HeaderMap.called`: the headers of a name, in any spelling;
* `ServiceClient.HeaderMap.Distinct`, `ServiceClient.HeaderMap.Spells`: maps without two spellings
  of one name, and maps that spell a name in one way;
* `ServiceClient.HeaderMap.Unambiguous`, `ServiceClient.HeaderMap.LeavesRoom`: what is wanted of the
  headers of a call, and what it takes.

Main results:

* `ServiceClient.HeaderMap.distinct_put`, `ServiceClient.HeaderMap.called_put_of_ne`: what writing a
  header does to the names of a map;
* `ServiceClient.HeaderMap.called_put_self_iff`: **a header that is written is the only one of its
  name exactly if the map spells the name in its way**;
* `ServiceClient.HeaderMap.unambiguous_describe_iff`: **the headers of a call are unambiguous
  exactly if the caller's headers leave room**.
-/

import ServiceClient.Proofs.Header
import ServiceClient.Wire.Request

set_option autoImplicit false

namespace ServiceClient.HeaderMap

open ServiceClient.Wire.Headers (sameName)

/-- The headers of a name, in any spelling. -/
def called (name : String) (headers : HeaderMap) : HeaderMap :=
  headers.filter fun h => sameName h.1 name

/-- No name stands in a map twice, in whatever spellings. -/
def Distinct (headers : HeaderMap) : Prop :=
  (headers.map (·.1.toLower)).Nodup

instance (headers : HeaderMap) : Decidable (Distinct headers) :=
  inferInstanceAs (Decidable (List.Nodup _))

/-- What is called by a name is spelled just so. -/
def Spells (name : String) (headers : HeaderMap) : Prop :=
  ∀ h ∈ headers.called name, h.1 = name

instance (name : String) (headers : HeaderMap) : Decidable (Spells name headers) :=
  inferInstanceAs (Decidable (∀ h ∈ headers.called name, h.1 = name))

variable {name other value : String} {headers : HeaderMap}

theorem sameName_iff : sameName name other = true ↔ name.toLower = other.toLower :=
  beq_iff_eq

/-- Names are compared letter by letter. -/
theorem sameName_iff_letters : sameName name other = true ↔
    name.toList.map Char.toLower = other.toList.map Char.toLower := by
  have hlower (text : String) : text.toLower.toList = text.toList.map Char.toLower :=
    String.toList_map
  rw [sameName_iff, ← String.toList_inj, hlower, hlower]

/-- How a name is spelled is told by the headers of that name. -/
theorem spells_congr {headers' : HeaderMap} (h : headers.called name = headers'.called name) :
    headers.Spells name ↔ headers'.Spells name := by
  rw [Spells, Spells, h]

theorem mem_called {h : String × String} :
    h ∈ headers.called name ↔ h ∈ headers ∧ h.1.toLower = name.toLower := by
  rw [called, List.mem_filter, sameName_iff]

/-! ### Writing a header -/

/-- Writing a header adds its name, unless the name is there. -/
theorem names_put (name value : String) (headers : HeaderMap) :
    names (put name value headers) =
      if name ∈ names headers then names headers else names headers ++ [name] := by
  induction headers with
  | nil => rfl
  | cons p rest ih =>
      obtain ⟨n, v⟩ := p
      by_cases hn : n = name
      · simp [put, names, hn]
      · have hcons :
            names (put name value ((n, v) :: rest)) = n :: names (put name value rest) := by
          rw [put, if_neg hn]
          rfl
        have hmem : name ∈ names ((n, v) :: rest) ↔ name ∈ names rest :=
          List.mem_cons.trans (or_iff_right (Ne.symm hn))
        rw [hcons, ih]
        by_cases hname : name ∈ names rest
        · rw [if_pos hname, if_pos (hmem.mpr hname)]
          rfl
        · rw [if_neg hname, if_neg (mt hmem.mp hname)]
          rfl

/-- A map without two spellings stays one, if the new header is not another spelling. -/
theorem distinct_put (hdistinct : headers.Distinct) (hspells : headers.Spells name)
    (value : String) : (put name value headers).Distinct := by
  have hlower (hs : HeaderMap) : hs.map (·.1.toLower) = (names hs).map String.toLower := by
    rw [names, List.map_map]
    rfl
  rw [Distinct, hlower] at hdistinct ⊢
  rw [names_put]
  by_cases hname : name ∈ names headers
  · rw [if_pos hname]
    exact hdistinct
  · rw [if_neg hname, List.map_append]
    refine List.nodup_append.mpr ⟨hdistinct, List.pairwise_singleton _ _, ?_⟩
    rintro lower hlower _ hself rfl
    obtain ⟨n, hn, rfl⟩ := List.mem_map.mp hlower
    obtain ⟨h, hh, rfl⟩ := List.mem_map.mp hn
    -- a header of the same name is spelled like the new one, so the name is there
    have hsame : h.1 = name := hspells h (mem_called.mpr ⟨hh, List.mem_singleton.mp hself⟩)
    exact hname (hsame ▸ hn)

theorem mem_put_self (name value : String) (headers : HeaderMap) :
    (name, value) ∈ put name value headers :=
  mem_of_get? (get?_put_self name value headers)

/-- Writing a header leaves those with other spellings. -/
theorem mem_put_of_ne {h : String × String} (hmem : h ∈ headers) (hname : h.1 ≠ name)
    (value : String) : h ∈ put name value headers := by
  induction headers with
  | nil => cases hmem
  | cons p rest ih =>
      obtain ⟨n, v⟩ := p
      rcases List.mem_cons.mp hmem with rfl | hmem
      · rw [put, if_neg hname]
        exact .head _
      · by_cases hn : n = name
        · rw [put, if_pos hn]
          exact .tail _ hmem
        · rw [put, if_neg hn]
          exact .tail _ (ih hmem)

/-- Writing a header does nothing to the headers of another name. -/
theorem called_put_of_ne (hname : sameName name other = false) (value : String)
    (headers : HeaderMap) : called other (put name value headers) = called other headers := by
  induction headers with
  | nil => simp [put, called, hname]
  | cons p rest ih =>
      obtain ⟨n, v⟩ := p
      by_cases hn : n = name
      · subst hn
        simp [put, called, hname]
      · simp only [called] at ih
        simp only [put, if_neg hn, called, List.filter_cons, ih]

/-- In a map without two spellings a header is the only one of its name. -/
theorem called_eq_of_mem (hdistinct : headers.Distinct) {h : String × String} (hmem : h ∈ headers)
    (hname : h.1.toLower = name.toLower) : headers.called name = [h] := by
  have hnodup : ((headers.called name).map (·.1.toLower)).Nodup :=
    (List.filter_sublist.map _).nodup hdistinct
  have hin : h ∈ headers.called name := mem_called.mpr ⟨hmem, hname⟩
  have hall : ∀ k ∈ headers.called name, k.1.toLower = name.toLower := fun k hk =>
    (mem_called.mp hk).2
  generalize headers.called name = found at hnodup hin hall
  cases found with
  | nil => cases hin
  | cons k rest =>
      cases rest with
      | nil => rw [List.mem_singleton.mp hin]
      | cons k' rest =>
          -- two of them would have the same name
          have hsame : k.1.toLower = k'.1.toLower :=
            (hall k (.head _)).trans (hall k' (.tail _ (.head _))).symm
          refine absurd ?_ (List.nodup_cons.mp hnodup).1
          exact List.mem_cons.mpr (.inl hsame)

/-- **A header that is written is the only one of its name** exactly if the map spells the name in
its way. -/
theorem called_put_self_iff (hdistinct : headers.Distinct) :
    called name (put name value headers) = [(name, value)] ↔ headers.Spells name := by
  constructor
  · intro honly h hh
    obtain ⟨hmem, hname⟩ := mem_called.mp hh
    by_cases hspelled : h.1 = name
    · exact hspelled
    · have hkept : h ∈ called name (put name value headers) :=
        mem_called.mpr ⟨mem_put_of_ne hmem hspelled value, hname⟩
      rw [honly, List.mem_singleton] at hkept
      exact congrArg Prod.fst hkept
  · intro hspells
    exact called_eq_of_mem (distinct_put hdistinct hspells value) (mem_put_self ..) rfl

/-! ### Writing a header that may be absent -/

theorem distinct_putSome {value : Option String} (hdistinct : headers.Distinct)
    (hspells : value.isSome = true → headers.Spells name) :
    (putSome name value headers).Distinct := by
  cases value with
  | none => exact hdistinct
  | some v => exact distinct_put hdistinct (hspells rfl) v

theorem called_putSome_of_ne (hname : sameName name other = false) (value : Option String)
    (headers : HeaderMap) : called other (putSome name value headers) = called other headers := by
  cases value with
  | none => rfl
  | some v => exact called_put_of_ne hname v headers

/-! ### The headers of a call -/

/-- Headers of a call that can be taken in one way only: no name comes twice, each type that is
given is told by the one header of its name, and so is the length of the body, if there is one. -/
structure Unambiguous (length : Int) (content accepted : Option MediaType) (headers : HeaderMap) :
    Prop where
  distinct : headers.Distinct
  accept_eq : ∀ m, accepted = some m → headers.called "Accept" = [("Accept", m.toText)]
  content_eq : ∀ m, content = some m → headers.called "Content-Type" = [("Content-Type", m.toText)]
  length_eq : 0 ≤ length → headers.called "Content-Length" = [("Content-Length", toString length)]
  no_length : length < 0 → headers.called "Content-Length" = []

/-- Headers of a caller that leave room for those of a call: the computed ones take the place of
those that are there, and a length is given for no call without a body. -/
structure LeavesRoom (length : Int) (content accepted : Option MediaType) (given : HeaderMap) :
    Prop where
  accept_spelled : accepted.isSome = true → given.Spells "Accept"
  content_spelled : content.isSome = true → given.Spells "Content-Type"
  length_spelled : 0 ≤ length → given.Spells "Content-Length"
  no_length : length < 0 → given.called "Content-Length" = []

section Describe

variable {given : Option HeaderMap} {length : Int} {content accepted : Option MediaType}

/-- The three headers that are computed have three names. -/
theorem computed_names :
    sameName accept contentType = false ∧ sameName accept contentLength = false ∧
      sameName contentType accept = false ∧ sameName contentType contentLength = false ∧
      sameName contentLength accept = false ∧ sameName contentLength contentType = false := by
  decide +kernel

/-- The value of the length, if there is one. -/
def lengthText (length : Int) : Option String :=
  if length > -1 then some (toString length) else none

theorem lengthText_of_nonneg (h : 0 ≤ length) : lengthText length = some (toString length) :=
  if_pos (by omega)

theorem lengthText_of_neg (h : length < 0) : lengthText length = none :=
  if_neg (by omega)

theorem describe_eq (given : Option HeaderMap) (length : Int)
    (content accepted : Option MediaType) :
    describe given length content accepted =
      putSome contentLength (lengthText length)
        (putSome contentType (content.map MediaType.toText)
          (putSome accept (accepted.map MediaType.toText) (given.getD []))) := rfl

/-- What the headers of a call hold under each of the computed names: the three steps do not disturb
one another. -/
theorem called_describe (given : Option HeaderMap) (length : Int)
    (content accepted : Option MediaType) :
    let withAccept := putSome accept (accepted.map MediaType.toText) (given.getD [])
    let withContent := putSome contentType (content.map MediaType.toText) withAccept
    let described := describe given length content accepted
    called accept described = called accept withAccept ∧
      called contentType described = called contentType withContent ∧
      called contentType withAccept = called contentType (given.getD []) ∧
      called contentLength withContent = called contentLength (given.getD []) := by
  obtain ⟨hat, hal, hta, htl, hla, hlt⟩ := computed_names
  intro withAccept withContent described
  refine ⟨?_, ?_, ?_, ?_⟩
  · exact (called_putSome_of_ne hla _ _).trans (called_putSome_of_ne hta _ _)
  · exact called_putSome_of_ne hlt _ _
  · exact called_putSome_of_ne hat _ _
  · exact (called_putSome_of_ne htl _ _).trans (called_putSome_of_ne hal _ _)

/-- **The headers of a call are unambiguous exactly if the caller's headers leave room.** -/
theorem unambiguous_describe_iff (hdistinct : Distinct (given.getD [])) :
    Unambiguous length content accepted (describe given length content accepted) ↔
      LeavesRoom length content accepted (given.getD []) := by
  obtain ⟨haccept, hcontent, hfirst, hsecond⟩ := called_describe given length content accepted
  rw [describe_eq] at haccept hcontent ⊢
  generalize hwith : putSome accept (accepted.map MediaType.toText) (given.getD []) = withAccept
    at haccept hcontent hfirst hsecond ⊢
  generalize hthen : putSome contentType (content.map MediaType.toText) withAccept = withContent
    at haccept hcontent hsecond ⊢
  -- each step is made on a map without two spellings, if the steps before it found room
  have hdistinct₁ (h : accepted.isSome = true → Spells accept (given.getD [])) :
      withAccept.Distinct := by
    rw [← hwith]
    exact distinct_putSome hdistinct fun hsome => h (by simpa using hsome)
  have hdistinct₂ (h₁ : withAccept.Distinct)
      (h : content.isSome = true → Spells contentType (given.getD [])) : withContent.Distinct := by
    rw [← hthen]
    exact distinct_putSome h₁ fun hsome => (spells_congr hfirst).mpr (h (by simpa using hsome))
  constructor
  · intro h
    have hroom₁ : accepted.isSome = true → Spells accept (given.getD []) := by
      intro hsome
      obtain ⟨m, rfl⟩ := Option.isSome_iff_exists.mp hsome
      have honly := haccept.symm.trans (h.accept_eq m rfl)
      rw [← hwith] at honly
      exact (called_put_self_iff hdistinct).mp honly
    have hroom₂ : content.isSome = true → Spells contentType (given.getD []) := by
      intro hsome
      obtain ⟨m, rfl⟩ := Option.isSome_iff_exists.mp hsome
      have honly := hcontent.symm.trans (h.content_eq m rfl)
      rw [← hthen] at honly
      exact (spells_congr hfirst).mp ((called_put_self_iff (hdistinct₁ hroom₁)).mp honly)
    refine ⟨hroom₁, hroom₂, fun hnonneg => ?_, fun hneg => ?_⟩
    · have honly := h.length_eq hnonneg
      rw [lengthText_of_nonneg hnonneg] at honly
      exact (spells_congr hsecond).mp
        ((called_put_self_iff (hdistinct₂ (hdistinct₁ hroom₁) hroom₂)).mp honly)
    · have hnone := h.no_length hneg
      rw [lengthText_of_neg hneg] at hnone
      exact hsecond.symm.trans hnone
  · intro h
    have hdistinct₁ := hdistinct₁ h.accept_spelled
    have hdistinct₂ := hdistinct₂ hdistinct₁ h.content_spelled
    refine ⟨?_, ?_, ?_, fun hnonneg => ?_, fun hneg => ?_⟩
    · refine distinct_putSome hdistinct₂ fun hsome => (spells_congr hsecond).mpr ?_
      by_cases hnonneg : 0 ≤ length
      · exact h.length_spelled hnonneg
      · rw [lengthText_of_neg (by omega)] at hsome
        cases hsome
    · rintro m rfl
      refine haccept.trans ?_
      rw [← hwith]
      exact (called_put_self_iff hdistinct).mpr (h.accept_spelled rfl)
    · rintro m rfl
      refine hcontent.trans ?_
      rw [← hthen]
      exact (called_put_self_iff hdistinct₁).mpr ((spells_congr hfirst).mpr (h.content_spelled rfl))
    · rw [lengthText_of_nonneg hnonneg]
      exact (called_put_self_iff hdistinct₂).mpr
        ((spells_congr hsecond).mpr (h.length_spelled hnonneg))
    · rw [lengthText_of_neg hneg]
      exact hsecond.trans (h.no_length hneg)

end Describe

end ServiceClient.HeaderMap

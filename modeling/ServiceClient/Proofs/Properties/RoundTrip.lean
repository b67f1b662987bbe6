/-
**Properties written as flat ones.**

The properties of a client can be written as flat properties in many ways: a number as an integer or
as its decimal text, a host by its text, no host as null or not at all, and each text with blanks
around it.  Reading takes the blanks off and finds in the digits the number that they write, so all
of these ways come to the same entries, those of the fields.  The check takes them as they are if
the properties are within their bounds, and in no other case.

Main definitions:

* `ServiceClient.Text.Padded`, `ServiceClient.Text.Tight`: texts with blanks around them, and texts
  without blanks at their ends;
* `ServiceClient.Properties.fieldEntries`: properties by their fields;
* `ServiceClient.Properties.FlatForm`: flat properties that write the properties of a client.

Main results:

* `ServiceClient.Text.Padded.trim_eq`: what is padded comes back when it is trimmed;
* `ServiceClient.Properties.check_fieldEntries_iff`: **the check takes properties as they are if
  they are within their bounds**, and only then;
* `ServiceClient.Properties.ofFlat_written`: **what is written is read back**.
-/

import ServiceClient.Proofs.Properties.FrontEnds

set_option autoImplicit false

namespace ServiceClient

/-! ### Texts with blanks around them -/

namespace Text

variable {s padded : String}

/-- A text with blanks put before and after it. -/
def Padded (s padded : String) : Prop :=
  ∃ front back : List Char, padded.toList = front ++ s.toList ++ back ∧
    (∀ c ∈ front, isBlank c = true) ∧ ∀ c ∈ back, isBlank c = true

/-- A text that neither begins nor ends with a blank. -/
structure Tight (s : String) : Prop where
  head : ∀ c, s.toList.head? = some c → isBlank c = false
  last : ∀ c, s.toList.getLast? = some c → isBlank c = false

theorem Padded.refl (s : String) : Padded s s :=
  ⟨[], [], by simp, nofun, nofun⟩

/-- The text that was padded comes back when the blanks are taken off. -/
theorem Padded.trim_eq (h : Padded s padded) (hs : Tight s) : trim isBlank padded = s := by
  obtain ⟨front, back, hpadded, hfront, hback⟩ := h
  rw [trim, hpadded, trimList_append hfront hback, trimList_of_ends hs.head hs.last,
    String.ofList_toList]

/-- A decimal text has digits at its ends. -/
theorem tight_toString (n : Nat) : Tight (toString n) where
  head _ hc := isBlank_of_isDigit (isDigit_of_mem_toString (List.mem_of_head? hc))
  last _ hc := isBlank_of_isDigit (isDigit_of_mem_toString (List.mem_of_getLast? hc))

end Text

/-! ### Values that write a number or a host -/

/-- What is found for a number: the integer, or its decimal text with blanks around it. -/
inductive FlatProperties.WritesNumber (n : Nat) : Option Value → Prop
  | int : WritesNumber n (some (.int n))
  | text {s : String} (padded : Text.Padded (toString n) s) : WritesNumber n (some (.text s))

/-- What is found for a host: its text with blanks around it, or, if there is no host, nothing or
null. -/
inductive FlatProperties.WritesHost : Option String → Option Value → Prop
  | absent : WritesHost none none
  | null : WritesHost none (some .null)
  | text {host s : String} (padded : Text.Padded host s) :
      WritesHost (some host) (some (.text s))

namespace FlatProperties

variable {properties : Value.Entries} {name s padded : String} {v : Value} {n : Nat}

/-- The text of a property comes back without the blanks around it. -/
theorem text?_of_padded (hfind : Value.find? (.text name) properties = some v) (hnull : v ≠ .null)
    (htext : v.text? = some padded) (hpadded : Text.Padded s padded) (hs : Text.Tight s) :
    text? properties name = .ok (if s.isEmpty then none else some s) := by
  rw [text?_present hfind hnull htext, ← isEmpty_trim, hpadded.trim_eq hs]

/-- The text of a number that can be shown is its decimal text. -/
theorem text?_int_of_length (hdigits : (toString n).length ≤ 4300) :
    (Value.int n).text? = some (toString n) := by
  have hbound : (n : Int).natAbs < Nat.pow 10 Text.digitLimit := by
    rw [Int.natAbs_natCast]
    exact (Text.length_toString_le_iff (by decide)).mp hdigits
  rw [Value.text?_int, integerText?, if_pos hbound]
  rfl

/-- Whatever writes a number has its decimal text, perhaps with blanks around it. -/
theorem WritesNumber.exists_text {found : Option Value} (h : WritesNumber n found)
    (hdigits : (toString n).length ≤ 4300) :
    ∃ v padded, found = some v ∧ v ≠ .null ∧ v.text? = some padded ∧
      Text.Padded (toString n) padded := by
  cases h with
  | int => exact ⟨.int n, _, rfl, by rintro ⟨⟩, text?_int_of_length hdigits, .refl _⟩
  | @text padded hpadded => exact ⟨.text padded, _, rfl, by rintro ⟨⟩, rfl, hpadded⟩

/-- A number that can be shown is read back. -/
theorem WritesNumber.integer?_eq (h : WritesNumber n (Value.find? (.text name) properties))
    (hdigits : (toString n).length ≤ 4300) :
    integer? properties name = .ok (some n) := by
  obtain ⟨v, padded, hfind, hnull, htext, hpadded⟩ := h.exists_text hdigits
  have hshown : (toString n).isEmpty = false := by
    rw [Bool.eq_false_iff, ne_eq, String.isEmpty_iff]
    exact fun hempty => Text.toList_toString_ne_nil n (String.toList_eq_nil_iff.mpr hempty)
  have hread : text? properties name = .ok (some (toString n)) := by
    rw [text?_of_padded hfind hnull htext hpadded (Text.tight_toString n), hshown]
    rfl
  rw [integer?, hread]
  simp only [bind, Except.bind, Text.freeInteger?_toString hdigits]
  rfl

/-- A host of which something is shown is read back, and so is an absent one. -/
theorem WritesHost.text?_eq {host : Option String}
    (h : WritesHost host (Value.find? (.text name) properties))
    (htight : ∀ s, host = some s → Text.Tight s)
    (hshown : ∀ s, host = some s → ∃ c ∈ s.toList, Text.isBlank c = false) :
    text? properties name = .ok host := by
  generalize hfind : Value.find? (.text name) properties = found at h
  cases h with
  | absent => exact text?_absent hfind
  | null => rw [text?, hfind]
  | @text host padded hpadded =>
      have hne : host.isEmpty = false := by
        obtain ⟨c, hmem, -⟩ := hshown host rfl
        rw [Bool.eq_false_iff, ne_eq, String.isEmpty_iff]
        rintro rfl
        cases hmem
      have hnull : Value.text padded ≠ .null := by rintro ⟨⟩
      rw [text?_of_padded hfind hnull rfl hpadded (htight host rfl), hne]
      rfl

end FlatProperties

/-! ### Properties by their fields -/

namespace Properties

variable {p : Properties} {es : Value.Entries}

def fieldEntries (p : Properties) : Value.Entries :=
  [ (.text timeoutField, p.timeout.elim .null fun n => .int n)
  , (.text proxyHostField, p.proxyHost.elim .null .text)
  , (.text proxyPortField, .int p.proxyPort.number) ]

theorem find?_fieldEntries (p : Properties) :
    Value.find? (.text timeoutField) p.fieldEntries =
        some (p.timeout.elim .null fun n => .int n) ∧
      Value.find? (.text proxyHostField) p.fieldEntries = some (p.proxyHost.elim .null .text) ∧
      Value.find? (.text proxyPortField) p.fieldEntries = some (.int p.proxyPort.number) :=
  ⟨rfl, rfl, rfl⟩

/-- **The check takes properties as they are if they are within their bounds**, and only then. -/
theorem check_fieldEntries_iff : check p.fieldEntries = .ok p ↔ p.Bounded := by
  obtain ⟨htimeout, hhost, hport⟩ := find?_fieldEntries p
  rw [check_ok_iff]
  constructor
  · intro hfits
    refine hfits.bounded_iff.mpr fun bs s hfound => ?_
    rw [hhost] at hfound
    cases h : p.proxyHost with
    | none =>
        rw [h] at hfound
        cases hfound
    | some host =>
        rw [h] at hfound
        cases hfound
  · intro hbounded
    refine ⟨htimeout ▸ ?_, hhost ▸ ?_, hport ▸ ?_⟩
    · cases p.timeout with
      | none => exact .null
      | some n => exact .number (n := n) rfl (Int.natCast_nonneg n)
    · cases h : p.proxyHost with
      | none => exact .null
      | some host =>
          obtain ⟨c, hmem, hc⟩ := hbounded.proxyHost host h
          exact .shown (List.all_eq_false.mpr ⟨c, hmem, Bool.eq_false_iff.mp hc⟩)
    · obtain ⟨hlow, hhigh⟩ := hbounded.proxyPort
      exact .number rfl rfl (by omega) (by omega) rfl

/-! ### Properties written as flat ones -/

/-- Flat properties that write the properties of a client; others may stand beside them. -/
structure FlatForm (p : Properties) (es : Value.Entries) : Prop where
  timeout : ∀ n, p.timeout = some n →
    FlatProperties.WritesNumber n (Value.find? (.text FlatProperties.timeoutName) es)
  proxyHost :
    FlatProperties.WritesHost p.proxyHost (Value.find? (.text FlatProperties.proxyHostName) es)
  proxyPort :
    FlatProperties.WritesNumber p.proxyPort.number
      (Value.find? (.text FlatProperties.proxyPortName) es)

/-- A port has few digits. -/
theorem length_toString_port (port : Port) : (toString port.number).length ≤ 4300 := by
  have hbound : port.number < Nat.pow 10 5 := port.bounded.trans_lt (by decide)
  exact ((Text.length_toString_le_iff (by decide)).mpr hbound).trans (by decide)

/-- However properties are written, they stand for the entries of the fields. -/
theorem FlatForm.flatEntries_eq (h : p.FlatForm es) (hvalid : p.Bounded) {n : Nat}
    (htimeout : p.timeout = some n) (hdigits : (toString n).length ≤ 4300)
    (htight : ∀ host, p.proxyHost = some host → Text.Tight host) :
    flatEntries es = .ok p.fieldEntries := by
  have hnumber := (h.timeout n htimeout).integer?_eq hdigits
  have hhost := h.proxyHost.text?_eq htight hvalid.proxyHost
  have hport := h.proxyPort.integer?_eq (length_toString_port p.proxyPort)
  rw [flatEntries, hnumber, hhost, hport, fieldEntries, htimeout]
  rfl

/-- **What is written is read back**: properties within their bounds, with a time to wait that can
be shown and without blanks at the ends of the host, come back from every way of writing them as
flat ones. -/
theorem ofFlat_written (hvalid : p.Bounded) {n : Nat} (htimeout : p.timeout = some n)
    (hdigits : (toString n).length ≤ 4300)
    (htight : ∀ host, p.proxyHost = some host → Text.Tight host) (h : p.FlatForm es) :
    ofFlat (.mapping es) = .ok p := by
  have hentries : (Origin.flat (.mapping es)).entries = .ok p.fieldEntries := by
    rw [Origin.entries, Origin.flatSource_mapping]
    exact h.flatEntries_eq hvalid htimeout hdigits htight
  have hchecked := check_fieldEntries_iff.mpr hvalid
  rw [Origin.ofFlat_eq, hentries]
  simp only [Except.mapError, bind, Except.bind, hchecked]

/-- Blanks of several kinds around a number and a host, beside a number that has none. -/
theorem ofFlat_written_padded :
    let p : Properties :=
      { timeout := some 1500, proxyHost := some "proxy.corp", proxyPort := { number := 3128 } }
    let es : Value.Entries :=
      [ (.text "ServiceProxyHostName", .text "\u2003proxy.corp\n")
      , (.text "ConnectionTimeout", .text "\u3000 1500\u001c")
      , (.text "ServiceProxyPort", .int 3128) ]
    p.Bounded ∧ p.FlatForm es ∧ ofFlat (.mapping es) = .ok p := by
  intro p es
  have hvalid : p.Bounded := by
    refine ⟨fun _ _ => Nat.zero_le _, fun host hhost => ?_, by decide⟩
    cases hhost
    exact ⟨'p', by decide, by decide⟩
  have htight : ∀ host, p.proxyHost = some host → Text.Tight host := by
    rintro _ ⟨⟩
    refine ⟨fun c hc => ?_, fun c hc => ?_⟩
    · obtain rfl : 'p' = c := Option.some.inj hc
      decide
    · obtain rfl : 'p' = c := Option.some.inj hc
      decide
  have hblank {cs : List Char} (h : cs.all Text.isBlank = true) : ∀ c ∈ cs, Text.isBlank c = true :=
    List.all_eq_true.mp h
  have hform : p.FlatForm es := by
    refine ⟨fun n hn => ?_, ?_, .int⟩
    · cases hn
      exact .text ⟨['\u3000', ' '], ['\u001c'], by decide, hblank rfl, hblank rfl⟩
    · exact .text ⟨['\u2003'], ['\n'], by decide, hblank rfl, hblank rfl⟩
  exact ⟨hvalid, hform, ofFlat_written hvalid rfl (by decide) htight hform⟩

end Properties

end ServiceClient

/-
**Requests that are built.**

The headers that are computed for a call are ASCII, so a request can be built from those of a caller
whose own are.  It is made of the method, the headers and the body of the call, as they are: the
length that a call sends along leaves nothing to complete.  Its URL is that of the call, as long as
this leads somewhere by itself; without a host it loses its scheme, and no service is reached.

Main definitions:

* `ServiceClient.Wire.NamesHost`: URLs that name a host;
* `ServiceClient.Verb.request`: the request of a call.

Main results:

* `ServiceClient.Wire.Headers.isAscii_describe`: the headers of a call are ASCII if those of the
  caller are;
* `ServiceClient.Verb.build_request`: **what the request of a call is made of**;
* `ServiceClient.Wire.Dialer.request_of_prepare`: a URL that opens and names a host leads to a
  service.
-/

import ServiceClient.Proofs.Exchange.Outcome
import ServiceClient.Proofs.Text.Integer
import ServiceClient.Proofs.Wire.Handed

set_option autoImplicit false

namespace ServiceClient

def Text.Ascii (s : String) : Prop :=
  ∀ c ∈ s.toList, c.toNat < 128

instance (s : String) : Decidable (Text.Ascii s) :=
  decidable_of_iff (s.toList.all (·.toNat < 128) = true) (by simp [Text.Ascii])

/-- The decimal text of a number is ASCII. -/
theorem Text.ascii_toString (n : Nat) : Text.Ascii (toString n) := fun _ hc =>
  Nat.lt_of_le_of_lt (toNat_of_isDigit (isDigit_of_mem_toString hc)).2 (by decide)

theorem MediaType.ascii_toText (m : MediaType) : Text.Ascii m.toText := by
  cases m <;> decide

theorem HeaderMap.mem_put {name value : String} {headers : HeaderMap} {p : String × String}
    (h : p ∈ put name value headers) : p = (name, value) ∨ p ∈ headers := by
  induction headers with
  | nil => exact .inl (by simpa [put] using h)
  | cons q rest ih =>
      obtain ⟨n, v⟩ := q
      by_cases hn : n = name
      · rw [put, if_pos hn, hn] at h
        exact (List.mem_cons.mp h).imp id (.tail _)
      · rw [put, if_neg hn] at h
        rcases List.mem_cons.mp h with rfl | h
        · exact .inr (.head _)
        · exact (ih h).imp id (.tail _)

namespace Wire

/-! ### Headers -/

namespace Headers

theorem isAscii_iff {headers : Headers} :
    headers.isAscii = true ↔ ∀ p ∈ headers, Text.Ascii p.1 ∧ Text.Ascii p.2 := by
  simp [isAscii, Text.Ascii]

theorem isAscii_putSome {name : String} {value : Option String} {headers : HeaderMap}
    (hname : Text.Ascii name) (hvalue : ∀ v ∈ value, Text.Ascii v) (h : isAscii headers = true) :
    isAscii (HeaderMap.putSome name value headers) = true := by
  cases value with
  | none => exact h
  | some v =>
      refine isAscii_iff.mpr fun p hp => ?_
      obtain rfl | hp := HeaderMap.mem_put hp
      · exact ⟨hname, hvalue v rfl⟩
      · exact isAscii_iff.mp h p hp

/-- The headers of a call are ASCII if those of the caller are. -/
theorem isAscii_describe {given : Option HeaderMap} (length : Int)
    (content accepted : Option MediaType) (h : isAscii (given.getD []) = true) :
    isAscii (HeaderMap.describe given length content accepted) = true := by
  have hmedia (m : Option MediaType) : ∀ v ∈ m.map MediaType.toText, Text.Ascii v := by
    rintro v hv
    obtain ⟨m, -, rfl⟩ := Option.map_eq_some_iff.mp hv
    exact m.ascii_toText
  refine isAscii_putSome (by decide) ?_ (isAscii_putSome (by decide) (hmedia content)
    (isAscii_putSome (by decide) (hmedia accepted) h))
  rintro v hv
  split at hv
  · obtain ⟨n, rfl⟩ := Int.eq_ofNat_of_zero_le (show 0 ≤ length by omega)
    obtain rfl := Option.some.inj hv
    exact Text.ascii_toString n
  · cases hv

end Headers

/-! ### Requests -/

/-- The length that a call sends along is not completed; neither are the headers of a request for a
resource. -/
theorem completeHeaders_call (c : Call) :
    Request.completeHeaders c.method.name (Text.encode c.body) c.headers = c.headers := by
  cases c with
  | get headers url => rfl
  | post headers url body content accepted =>
      exact completeHeaders_of_get? (HeaderMap.get?_describe_length ..)
  | put headers url body media =>
      exact completeHeaders_of_get? (HeaderMap.get?_describe_length ..)
  | delete headers url =>
      exact completeHeaders_of_get? (HeaderMap.get?_describe_length headers 0 _ _)

def NamesHost (url : String) : Prop :=
  ∃ u, Url.parse? url = some u ∧ u.host ≠ ""

end Wire

namespace Verb

open ServiceClient.Wire (Request Headers)

def request (v : Verb) (u : Url) : Request where
  method := v.method.name
  url := u
  headers := v.headers
  body := Text.encode v.body

theorem isAscii_headers (v : Verb) (h : Headers.isAscii (v.supplied.getD []) = true) :
    Headers.isAscii v.headers = true := by
  cases v with
  | call c =>
      rw [headers, Call.headers_eq]
      exact Headers.isAscii_describe _ _ _ h
  | lease given url => exact h

/-- **What the request of a call is made of.** -/
theorem build_request (v : Verb) {u : Url} (hu : Url.parse? v.url = some u)
    (habsolute : u.isAbsolute = true) (h : Headers.isAscii (v.supplied.getD []) = true) :
    Request.build v.method.name v.url v.headers (Text.encode v.body) = .ok (v.request u) := by
  have hcomplete : Request.completeHeaders v.method.name (Text.encode v.body) v.headers =
      v.headers := by
    cases v with
    | call c => exact Wire.completeHeaders_call c
    | lease given url => rfl
  rw [Request.build, hu]
  simp only [v.isAscii_headers h, if_true, Wire.upper_name, hcomplete, Request.target, habsolute]
  rfl

end Verb

namespace Wire.Dialer

variable {d : Dialer}

/-- A URL that opens is one of the protocol. -/
theorem parse_of_prepare {url : String} (h : d.prepare url = .ok ()) :
    ∃ u, Url.parse? url = some u ∧ schemes.contains u.scheme = true := by
  cases hparse : Url.parse? url with
  | none =>
      rw [prepare, hparse] at h
      cases h
  | some u =>
      refine ⟨u, rfl, ?_⟩
      by_contra hscheme
      simp only [prepare, hparse, hscheme] at h
      cases h

/-- **A URL that opens and names a host leads to a service**, as long as the headers are ASCII. -/
theorem request_of_prepare {v : Verb} (h : d.prepare v.url = .ok ()) (hhost : NamesHost v.url)
    (hascii : Headers.isAscii (v.supplied.getD []) = true) :
    ∃ u, Url.parse? v.url = some u ∧ schemes.contains u.scheme = true ∧
      Request.build v.method.name v.url v.headers (Text.encode v.body) = .ok (v.request u) := by
  obtain ⟨u, hparse, hscheme⟩ := parse_of_prepare h
  obtain ⟨u', hparse', hhost⟩ := hhost
  obtain rfl : u = u' := Option.some.inj (hparse.symm.trans hparse')
  have hnamed : u.scheme ≠ "" := by
    intro hempty
    rw [hempty] at hscheme
    exact absurd hscheme (by decide)
  refine ⟨u, hparse, hscheme, v.build_request hparse ?_ hascii⟩
  simp [Url.isAbsolute, hnamed, hhost]

end Wire.Dialer

end ServiceClient

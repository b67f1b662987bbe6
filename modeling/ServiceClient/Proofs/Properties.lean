/-
**The bounds of properties.**

Properties are made in three ways: from the values of their fields, from flat properties, and from a
configuration with an environment.  The three read their values differently, but each ends in the
same check of three entries.  So it is enough to say once which values fit a field and what they
come to, and that the check accepts exactly those; what is known of a value that fits is then known
of the properties, wherever they come from.

A host may also be given by its bytes, and here the bounds fail: a blank text is no host, but bytes
are taken for a host whatever text they hold, a blank one too.  Nothing else keeps properties from
their bounds.

Main definitions:

* `ServiceClient.Properties.Fits`: the properties that entries come to;
* `ServiceClient.Properties.Unfit`: the fields that nothing fits;
* `ServiceClient.Properties.Bounded`: properties within their bounds;
* `ServiceClient.Properties.Origin`: the ways to make properties.

Main results:

* `ServiceClient.Properties.check_ok_iff`: **the check accepts what fits**;
* `ServiceClient.Properties.check_error`: **the fields that do not fit are reported, and no others**;
* `ServiceClient.Properties.Origin.guarded`: **whatever properties are made from, they are within
  their bounds, unless the host is given by the bytes of a blank text**; they stay as they are, and
  what does not fit is rejected.
-/

import ServiceClient.Proofs.Config.Section

set_option autoImplicit false

namespace ServiceClient

def Rejection.issues : Rejection → List FieldIssue
  | .unreadable _ => []
  | .invalid issues | .unbound _ issues => issues

namespace Properties

variable {es : Value.Entries} {p : Properties}

/-! ### What fits a field -/

/-- What is found for the time to wait, and the time that it comes to. -/
inductive TimeoutFits : Option Value → Option Nat → Prop
  | absent : TimeoutFits none (some 45000)
  | null : TimeoutFits (some .null) none
  | number {v : Value} {n : Int} (read : checkInteger v = .ok n) (low : 0 ≤ n) :
      TimeoutFits (some v) (some n.toNat)

/-- What is found for the host of the proxy, and the host that it comes to. -/
inductive ProxyHostFits : Option Value → Option String → Prop
  | absent : ProxyHostFits none none
  | null : ProxyHostFits (some .null) none
  | blank {s : String} (blank : Text.allBlank s = true) : ProxyHostFits (some (.text s)) none
  | shown {s : String} (shown : Text.allBlank s = false) :
      ProxyHostFits (some (.text s)) (some s)
  | decoded {bs : List UInt8} {s : String} (decoded : Text.decode? bs = some s) :
      ProxyHostFits (some (.bytes bs)) (some s)

/-- What is found for the port of the proxy, and the port that it comes to. -/
inductive ProxyPortFits : Option Value → Port → Prop
  | absent : ProxyPortFits none { number := 8888 }
  | missing {v : Value} (missing : isMissing v = true) :
      ProxyPortFits (some v) { number := 8888 }
  | number {v : Value} {n : Int} {port : Port} (present : isMissing v = false)
      (read : checkInteger v = .ok n) (low : 1 ≤ n) (high : n ≤ 65535)
      (same : (port.number : Int) = n) : ProxyPortFits (some v) port

/-- The properties that entries come to. -/
structure Fits (es : Value.Entries) (p : Properties) : Prop where
  timeout : TimeoutFits (Value.find? (.text timeoutField) es) p.timeout
  proxyHost : ProxyHostFits (Value.find? (.text proxyHostField) es) p.proxyHost
  proxyPort : ProxyPortFits (Value.find? (.text proxyPortField) es) p.proxyPort

/-- The fields whose values come to nothing. -/
inductive Unfit (es : Value.Entries) : String → Prop
  | timeout (none : ∀ timeout, ¬ TimeoutFits (Value.find? (.text timeoutField) es) timeout) :
      Unfit es timeoutField
  | proxyHost (none : ∀ host, ¬ ProxyHostFits (Value.find? (.text proxyHostField) es) host) :
      Unfit es proxyHostField
  | proxyPort (none : ∀ port, ¬ ProxyPortFits (Value.find? (.text proxyPortField) es) port) :
      Unfit es proxyPortField

/-! ### One field -/

theorem checkTimeout_ok_iff {v : Value} {timeout : Option Nat} :
    checkTimeout v = .ok timeout ↔ TimeoutFits (some v) timeout := by
  constructor
  · intro h
    by_cases hnull : v = .null
    · subst hnull
      cases h
      exact .null
    · rw [checkTimeout] at h
      · cases hread : checkInteger v with
        | error issue =>
            rw [hread] at h
            cases h
        | ok n =>
            rw [hread] at h
            cases n with
            | ofNat n =>
                cases h
                exact .number hread (Int.natCast_nonneg n)
            | negSucc n => cases h
      · exact hnull
  · intro h
    cases h with
    | null => rfl
    | number hread hlow =>
        obtain ⟨n, rfl⟩ := Int.eq_ofNat_of_zero_le hlow
        rw [checkTimeout, hread]
        · rfl
        · rintro rfl
          cases hread

theorem checkProxyHost_ok_iff {v : Value} {host : Option String} :
    checkProxyHost v = .ok host ↔ ProxyHostFits (some v) host := by
  constructor
  · intro h
    cases v with
    | null =>
        cases h
        exact .null
    | text s =>
        cases hblank : Text.allBlank s with
        | true =>
            rw [checkProxyHost, hblank] at h
            cases h
            exact .blank hblank
        | false =>
            rw [checkProxyHost, hblank] at h
            cases h
            exact .shown hblank
    | bytes bs =>
        cases hdecoded : Text.decode? bs with
        | none =>
            rw [checkProxyHost, hdecoded] at h
            cases h
        | some s =>
            rw [checkProxyHost, hdecoded] at h
            cases h
            exact .decoded hdecoded
    | _ => cases h
  · intro h
    cases h with
    | null => rfl
    | blank hblank =>
        rw [checkProxyHost, hblank]
        rfl
    | shown hshown =>
        rw [checkProxyHost, hshown]
        rfl
    | decoded hdecoded =>
        rw [checkProxyHost, hdecoded]
        rfl

/-- An integer is a port if it lies between the bounds. -/
theorem checkPort_ok_iff {n : Int} {port : Port} :
    checkPort n = .ok port ↔ 1 ≤ n ∧ n ≤ 65535 ∧ (port.number : Int) = n := by
  constructor
  · intro h
    unfold checkPort at h
    split at h
    · cases h
    · rename_i hlow
      split at h
      · cases h
      · rename_i hhigh
        cases h
        simp only [leastPort, greatestPort] at hlow hhigh
        exact ⟨by omega, by omega, Int.toNat_of_nonneg (by omega)⟩
  · rintro ⟨-, -, rfl⟩
    exact checkPort_number port

theorem checkProxyPort_ok_iff {v : Value} {port : Port} :
    checkProxyPort v = .ok port ↔ ProxyPortFits (some v) port := by
  constructor
  · intro h
    cases hmissing : isMissing v with
    | true =>
        rw [checkProxyPort, hmissing] at h
        cases h
        exact .missing hmissing
    | false =>
        rw [checkProxyPort, hmissing] at h
        cases hread : checkInteger v with
        | error issue =>
            rw [hread] at h
            cases h
        | ok n =>
            rw [hread] at h
            obtain ⟨hlow, hhigh, hsame⟩ := checkPort_ok_iff.mp h
            exact .number hmissing hread hlow hhigh hsame
  · intro h
    cases h with
    | missing hmissing =>
        rw [checkProxyPort, hmissing]
        rfl
    | number hpresent hread hlow hhigh hsame =>
        rw [checkProxyPort, hpresent, hread]
        exact checkPort_ok_iff.mpr ⟨hlow, hhigh, hsame⟩

/-! ### One field of entries -/

section Field

variable {α : Type} {field : String} {absent : α} {check : Value → Except Issue α}

theorem checkField_none (hfind : Value.find? (.text field) es = none) :
    checkField es field absent check = .ok absent := by
  rw [checkField, hfind]

theorem checkField_some {v : Value} (hfind : Value.find? (.text field) es = some v) :
    checkField es field absent check = (check v).mapError fun issue => { field, issue } := by
  rw [checkField, hfind]

/-- A field of entries is accepted if there is none, or its value is accepted. -/
theorem checkField_ok_iff {a : α} {Comes : Option Value → α → Prop}
    (habsent : ∀ b, Comes none b ↔ b = absent)
    (hcheck : ∀ v b, check v = .ok b ↔ Comes (some v) b) :
    checkField es field absent check = .ok a ↔ Comes (Value.find? (.text field) es) a := by
  cases hfind : Value.find? (.text field) es with
  | none =>
      rw [checkField_none hfind, habsent]
      exact ⟨fun h => (Except.ok.inj h).symm, fun h => h ▸ rfl⟩
  | some v =>
      rw [checkField_some hfind, ← hcheck]
      cases check v with
      | ok b => simp [Except.mapError]
      | error issue => simp [Except.mapError]

/-- The issue of a field names the field. -/
theorem field_of_error {e : FieldIssue} (h : checkField es field absent check = .error e) :
    e.field = field := by
  cases hfind : Value.find? (.text field) es with
  | none =>
      rw [checkField_none hfind] at h
      cases h
  | some v =>
      rw [checkField_some hfind] at h
      cases hv : check v with
      | ok b =>
          rw [hv] at h
          cases h
      | error issue =>
          rw [hv] at h
          cases h
          rfl

/-- A field is named among the issues if its value was not accepted. -/
theorem mem_issueOf_iff {r : Except FieldIssue α} (h : ∀ e, r = .error e → e.field = field)
    {name : String} :
    name ∈ (issueOf r).map (·.field) ↔ name = field ∧ ∀ a, r ≠ .ok a := by
  cases r with
  | ok a =>
      refine ⟨fun hmem => ?_, fun hnone => absurd rfl (hnone.2 a)⟩
      cases hmem
  | error e =>
      rw [issueOf, List.map_singleton, List.mem_singleton, h e rfl]
      exact ⟨fun hname => ⟨hname, nofun⟩, fun hname => hname.1⟩

end Field

theorem timeout_ok_iff {timeout : Option Nat} :
    checkField es timeoutField (some 45000) checkTimeout = .ok timeout ↔
      TimeoutFits (Value.find? (.text timeoutField) es) timeout := by
  refine checkField_ok_iff (fun b => ⟨fun h => ?_, fun h => h ▸ .absent⟩)
    fun _ _ => checkTimeout_ok_iff
  cases h
  rfl

theorem proxyHost_ok_iff {host : Option String} :
    checkField es proxyHostField none checkProxyHost = .ok host ↔
      ProxyHostFits (Value.find? (.text proxyHostField) es) host := by
  refine checkField_ok_iff (fun b => ⟨fun h => ?_, fun h => h ▸ .absent⟩)
    fun _ _ => checkProxyHost_ok_iff
  cases h
  rfl

theorem proxyPort_ok_iff {port : Port} :
    checkField es proxyPortField .proxyDefault checkProxyPort = .ok port ↔
      ProxyPortFits (Value.find? (.text proxyPortField) es) port := by
  refine checkField_ok_iff (fun b => ⟨fun h => ?_, fun h => h ▸ .absent⟩)
    fun _ _ => checkProxyPort_ok_iff
  cases h
  rfl

/-! ### All fields -/

/-- **The check accepts what fits.** -/
theorem check_ok_iff : check es = .ok p ↔ Fits es p := by
  obtain ⟨timeout, proxyHost, proxyPort⟩ := p
  have hfits : Fits es ⟨timeout, proxyHost, proxyPort⟩ ↔
      checkField es timeoutField (some 45000) checkTimeout = .ok timeout ∧
        checkField es proxyHostField none checkProxyHost = .ok proxyHost ∧
        checkField es proxyPortField .proxyDefault checkProxyPort = .ok proxyPort := by
    rw [timeout_ok_iff, proxyHost_ok_iff, proxyPort_ok_iff]
    exact ⟨fun h => ⟨h.timeout, h.proxyHost, h.proxyPort⟩, fun h => ⟨h.1, h.2.1, h.2.2⟩⟩
  rw [hfits, check]
  generalize checkField es timeoutField _ checkTimeout = r
  generalize checkField es proxyHostField _ checkProxyHost = r'
  generalize checkField es proxyPortField _ checkProxyPort = r''
  cases r <;> cases r' <;> cases r'' <;> simp

/-- A field that nothing fits is one whose check fails. -/
theorem unfit_iff {name : String} :
    Unfit es name ↔
      (name = timeoutField ∧ ∀ t, checkField es timeoutField (some 45000) checkTimeout ≠ .ok t) ∨
      (name = proxyHostField ∧ ∀ s, checkField es proxyHostField none checkProxyHost ≠ .ok s) ∨
      (name = proxyPortField ∧
        ∀ q, checkField es proxyPortField .proxyDefault checkProxyPort ≠ .ok q) := by
  simp only [ne_eq, timeout_ok_iff, proxyHost_ok_iff, proxyPort_ok_iff]
  constructor
  · intro h
    cases h with
    | timeout hnone => exact .inl ⟨rfl, hnone⟩
    | proxyHost hnone => exact .inr (.inl ⟨rfl, hnone⟩)
    | proxyPort hnone => exact .inr (.inr ⟨rfl, hnone⟩)
  · rintro (⟨rfl, hnone⟩ | ⟨rfl, hnone⟩ | ⟨rfl, hnone⟩)
    · exact .timeout hnone
    · exact .proxyHost hnone
    · exact .proxyPort hnone

/-- **The fields that do not fit are reported, and no others.** -/
theorem check_error {issues : List FieldIssue} (h : check es = .error issues) :
    issues ≠ [] ∧ ∀ name, name ∈ issues.map (·.field) ↔ Unfit es name := by
  have htimeout : ∀ e, checkField es timeoutField (some 45000) checkTimeout = .error e →
      e.field = timeoutField := fun _ => field_of_error
  have hhost : ∀ e, checkField es proxyHostField none checkProxyHost = .error e →
      e.field = proxyHostField := fun _ => field_of_error
  have hport : ∀ e, checkField es proxyPortField .proxyDefault checkProxyPort = .error e →
      e.field = proxyPortField := fun _ => field_of_error
  simp only [unfit_iff]
  rw [check] at h
  generalize checkField es timeoutField _ checkTimeout = r at h htimeout ⊢
  generalize checkField es proxyHostField _ checkProxyHost = r' at h hhost ⊢
  generalize checkField es proxyPortField _ checkProxyPort = r'' at h hport ⊢
  have hissues : issues = issueOf r ++ issueOf r' ++ issueOf r'' ∧ issues ≠ [] := by
    cases r <;> cases r' <;> cases r'' <;> cases h <;> simp [issueOf]
  refine ⟨hissues.2, fun name => ?_⟩
  rw [hissues.1, List.map_append, List.map_append, List.mem_append, List.mem_append,
    mem_issueOf_iff htimeout, mem_issueOf_iff hhost, mem_issueOf_iff hport, or_assoc]

/-! ### Bounds -/

/-- Properties within their bounds: a time to wait that is not negative, a host of which something
is shown, and a port of a machine. -/
structure Bounded (p : Properties) : Prop where
  timeout : ∀ timeout, p.timeout = some timeout → 0 ≤ timeout
  proxyHost : ∀ host, p.proxyHost = some host → ∃ c ∈ host.toList, Text.isBlank c = false
  proxyPort : 1 ≤ p.proxyPort.number ∧ p.proxyPort.number ≤ 65535

/-- What is not blank shows a character. -/
theorem exists_of_not_allBlank {s : String} (h : Text.allBlank s = false) :
    ∃ c ∈ s.toList, Text.isBlank c = false := by
  obtain ⟨c, hmem, hc⟩ := List.all_eq_false.mp h
  exact ⟨c, hmem, Bool.eq_false_iff.mpr hc⟩

/-- **What fits is within its bounds**, unless the host is given by the bytes of a blank text. -/
theorem Fits.bounded_iff (h : Fits es p) :
    p.Bounded ↔
      ∀ bs s, Value.find? (.text proxyHostField) es = some (.bytes bs) →
        Text.decode? bs = some s → Text.allBlank s = false := by
  have hfits := h.proxyHost
  generalize Value.find? (.text proxyHostField) es = found at hfits
  constructor
  · rintro hbounded bs s rfl hdecoded
    generalize hhost : p.proxyHost = host at hfits
    cases hfits with
    | decoded hdecoded' =>
        rw [hdecoded] at hdecoded'
        cases hdecoded'
        obtain ⟨c, hmem, hc⟩ := hbounded.proxyHost s hhost
        exact List.all_eq_false.mpr ⟨c, hmem, Bool.eq_false_iff.mp hc⟩
  · intro hshown
    refine ⟨fun _ _ => Nat.zero_le _, fun host hhost => ?_,
      p.proxyPort.positive, p.proxyPort.bounded⟩
    rw [hhost] at hfits
    cases hfits with
    | shown hshows => exact exists_of_not_allBlank hshows
    | decoded hdecoded => exact exists_of_not_allBlank (hshown _ _ rfl hdecoded)

/-! ### Instances stay as they are -/

/-- Every field is frozen. -/
theorem assign_of_mem {field : String} (h : field ∈ fields) (p : Properties) :
    p.assign field = .error [{ field, issue := .frozen }] := by
  have hname : ∀ name ∈ fields, name.toList.head? ≠ some '_' := by decide
  rw [assign, if_neg (hname field h)]

/-- Setting anything leaves an instance as it is. -/
theorem eq_of_assign {field : String} {p' : Properties} (h : p.assign field = .ok p') :
    p' = p := by
  rw [assign] at h
  split at h
  · cases h
    rfl
  · cases h

/-- An instance after attempts to set names. -/
def attempted (p : Properties) (names : List String) : Properties :=
  names.foldl (fun p name => (p.assign name).toOption.getD p) p

/-- Attempts leave an instance as it is. -/
theorem attempted_eq (p : Properties) (names : List String) : p.attempted names = p := by
  induction names with
  | nil => rfl
  | cons name rest ih =>
      have hstep : (p.assign name).toOption.getD p = p := by
        cases hname : p.assign name with
        | error issues => rfl
        | ok p' => exact eq_of_assign hname
      rw [attempted, List.foldl_cons, hstep]
      exact ih

/-! ### Ways to make properties -/

/-- The entries that flat properties stand for are read from them. -/
theorem flatEntries_ok {properties : Value.Entries} (h : flatEntries properties = .ok es) :
    ∃ timeout host port,
      FlatProperties.integer? properties FlatProperties.timeoutName = .ok timeout ∧
      FlatProperties.text? properties FlatProperties.proxyHostName = .ok host ∧
      FlatProperties.integer? properties FlatProperties.proxyPortName = .ok port ∧
      es =
        [ (.text timeoutField, (timeout <|> some 45000).elim .null .int)
        , (.text proxyHostField, host.elim .null .text)
        , (.text proxyPortField, .int (port.getD 8888)) ] := by
  rw [flatEntries] at h
  cases htimeout : FlatProperties.integer? properties FlatProperties.timeoutName with
  | error f =>
      rw [htimeout] at h
      cases h
  | ok timeout =>
      cases hhost : FlatProperties.text? properties FlatProperties.proxyHostName with
      | error f =>
          rw [htimeout, hhost] at h
          cases h
      | ok host =>
          cases hport : FlatProperties.integer? properties FlatProperties.proxyPortName with
          | error f =>
              rw [htimeout, hhost, hport] at h
              cases h
          | ok port =>
              rw [htimeout, hhost, hport] at h
              cases h
              exact ⟨timeout, host, port, rfl, rfl, rfl, rfl⟩

theorem ok_of_toOption {ε α : Type} {r : Except ε α} {a : α} (h : r.toOption = some a) :
    r = .ok a := by
  cases r with
  | error e => cases h
  | ok b =>
      cases h
      rfl

/-- What properties are made from. -/
inductive Origin
  /-- The values of the fields. -/
  | fields (es : Value.Entries)
  /-- Flat properties. -/
  | flat (v : Value)
  /-- A configuration and an environment. -/
  | config (c : Config) (env : Environment)

namespace Origin

def properties : Origin → Except Rejection Properties
  | .fields es => (check es).mapError .invalid
  | .flat v => ofFlat v
  | .config c env => c.bind env

/-- The entries of flat properties; what is empty has none. -/
def flatSource (v : Value) : Except Failure Value.Entries :=
  if v.isEmpty then .ok [] else FlatProperties.entries v

/-- The entries that are checked, if all values can be read. -/
def entries : Origin → Except Failure Value.Entries
  | .fields es => .ok es
  | .flat v => flatSource v >>= flatEntries
  | .config c env => c.clientEntries env

/-- How issues are reported. -/
def reported : Origin → List FieldIssue → Rejection
  | .fields _ | .flat _ => .invalid
  | .config .. => .unbound Config.misfit

variable {o : Origin}

@[simp] theorem issues_reported (o : Origin) (issues : List FieldIssue) :
    (o.reported issues).issues = issues := by
  cases o <;> rfl

/-- The properties of flat ones are those of the entries that they stand for. -/
theorem ofFlat_eq (v : Value) :
    ofFlat v = (flat v).entries.mapError .unreadable >>= fun es => (check es).mapError .invalid := by
  rw [ofFlat, entries, flatSource]
  cases hempty : v.isEmpty with
  | true => rfl
  | false =>
      cases FlatProperties.entries v with
      | error f => rfl
      | ok properties => rfl

/-- **The check decides**, whatever properties are made from. -/
theorem properties_eq (o : Origin) :
    o.properties = o.entries.mapError .unreadable >>= fun es => (check es).mapError o.reported := by
  cases o with
  | fields es => rfl
  | flat v => exact ofFlat_eq v
  | config c env => rfl

theorem properties_ok_iff : o.properties = .ok p ↔ ∃ es, o.entries = .ok es ∧ Fits es p := by
  rw [properties_eq]
  cases o.entries with
  | error f => simp [Except.mapError, bind, Except.bind]
  | ok es =>
      simp only [Except.ok.injEq, exists_eq_left', ← check_ok_iff]
      cases hcheck : check es with
      | error issues => simp [Except.mapError, bind, Except.bind, hcheck]
      | ok p' => simp [Except.mapError, bind, Except.bind, hcheck]

/-- Why there are no properties: a value cannot be read, or the fields that nothing fits. -/
theorem properties_error {r : Rejection} (h : o.properties = .error r) :
    (∃ f, o.entries = .error f ∧ r = .unreadable f) ∨
      ∃ es, o.entries = .ok es ∧ (∀ p, ¬ Fits es p) ∧ r.issues ≠ [] ∧
        ∀ name, name ∈ r.issues.map (·.field) ↔ Unfit es name := by
  rw [properties_eq] at h
  cases hentries : o.entries with
  | error f =>
      rw [hentries] at h
      cases h
      exact .inl ⟨f, rfl, rfl⟩
  | ok es =>
      rw [hentries] at h
      refine .inr ⟨es, rfl, ?_⟩
      cases hcheck : check es with
      | ok p =>
          simp only [Except.mapError, bind, Except.bind, hcheck] at h
          cases h
      | error issues =>
          simp only [Except.mapError, bind, Except.bind, hcheck] at h
          cases h
          rw [issues_reported]
          refine ⟨fun p hfits => ?_, check_error hcheck⟩
          rw [check_ok_iff.mpr hfits] at hcheck
          cases hcheck

/-- The bytes by which the host is given.  Flat properties give it by a text, and so does a variable
of the environment. -/
def HostBytes (bs : List UInt8) : Origin → Prop
  | .fields es => Value.find? (.text proxyHostField) es = some (.bytes bs)
  | .flat _ => False
  | .config c env =>
      env.get? (Environment.override (Config.clientKey ++ "." ++ proxyHostField)) = none ∧
        c.lookup (Config.clientKey ++ "." ++ proxyHostField) = .bytes bs

/-- The bytes by which the host is given are those that are checked. -/
theorem find?_bytes_iff (h : o.entries = .ok es) (bs : List UInt8) :
    Value.find? (.text proxyHostField) es = some (.bytes bs) ↔ o.HostBytes bs := by
  cases o with
  | fields es' =>
      cases h
      exact Iff.rfl
  | flat v =>
      rw [entries] at h
      cases hread : flatSource v with
      | error f =>
          rw [hread] at h
          cases h
      | ok properties =>
          rw [hread] at h
          -- flat properties stand for a host that is a text, or null
          obtain ⟨timeout, host, port, -, -, -, rfl⟩ := flatEntries_ok h
          refine ⟨fun hfound => ?_, False.elim⟩
          cases host <;> cases hfound
  | config c env => exact Config.find?_bytes_iff h (by decide)

/-- **Whatever properties are made from, they are within their bounds, unless the host is given by
the bytes of a blank text.**  They are made if the values fit, otherwise the fields are reported that
nothing fits; and they stay as they are. -/
theorem guarded (o : Origin) :
    (∀ p, o.properties = .ok p ↔ ∃ es, o.entries = .ok es ∧ Fits es p) ∧
    (∀ p, o.properties = .ok p →
      (p.Bounded ↔
        ∀ bs s, o.HostBytes bs → Text.decode? bs = some s → Text.allBlank s = false)) ∧
    (∀ r, o.properties = .error r → (∃ f, o.entries = .error f ∧ r = .unreadable f) ∨
      ∃ es, o.entries = .ok es ∧ (∀ p, ¬ Fits es p) ∧ r.issues ≠ [] ∧
        ∀ name, name ∈ r.issues.map (·.field) ↔ Unfit es name) ∧
    ∀ p, o.properties = .ok p →
      (∀ field ∈ Properties.fields, p.assign field = .error [{ field, issue := .frozen }]) ∧
        ∀ names, p.attempted names = p := by
  refine ⟨fun p => properties_ok_iff, fun p h => ?_, fun r => properties_error,
    fun p _ => ⟨fun field hfield => assign_of_mem hfield p, attempted_eq p⟩⟩
  obtain ⟨es, hentries, hfits⟩ := properties_ok_iff.mp h
  simp only [← find?_bytes_iff hentries]
  exact hfits.bounded_iff

/-- A configuration with a placeholder, a truth value, and a host whose bytes are set aside for a
variable of the environment. -/
theorem guarded_config :
    let inner : Value :=
      .mapping [(.text "timeout", .text "$\x7bWAIT\x7d"), (.text "proxy_host", .bytes [32]),
        (.text "proxy_port", .bool true)]
    let c : Config := { data := .mapping [(.text "odata", .mapping [(.text "client", inner)])] }
    let o : Origin := .config c [("WAIT", "+0_7.0 "), ("ODATA_CLIENT_PROXY_HOST", " proxy ")]
    let p : Properties :=
      { timeout := some 7, proxyHost := some " proxy ", proxyPort := { number := 1 } }
    o.properties = .ok p ∧ p.Bounded ∧ p.attempted ["timeout", "_note"] = p := by
  intro inner c o p
  have hmade : o.properties = .ok p := ok_of_toOption (by decide +kernel)
  obtain ⟨-, hbounded, -, hfrozen⟩ := guarded o
  have hset : ∀ bs, ¬ o.HostBytes bs := by
    rintro bs ⟨hvar, -⟩
    have hfound : Environment.get? (Environment.override (Config.clientKey ++ "." ++ proxyHostField))
        [("WAIT", "+0_7.0 "), ("ODATA_CLIENT_PROXY_HOST", " proxy ")] = some " proxy " := by
      decide +kernel
    rw [hvar] at hfound
    cases hfound
  exact ⟨hmade, (hbounded p hmade).mpr fun bs _ hbytes => absurd hbytes (hset bs),
    (hfrozen p hmade).2 _⟩

/-- The bytes of a blank are taken for a host, and nothing is shown of it. -/
theorem blank_host :
    let inner : Value := .mapping [(.text "proxy_host", .bytes [32])]
    let c : Config := { data := .mapping [(.text "odata", .mapping [(.text "client", inner)])] }
    ∃ p, (Origin.config c []).properties = .ok p ∧ p.proxyHost = some " " ∧ ¬ p.Bounded := by
  intro inner c
  refine ⟨{ proxyHost := some " " }, ok_of_toOption (by decide +kernel), rfl, fun hbounded => ?_⟩
  have hblank : Text.allBlank " " = true := by decide
  obtain ⟨ch, hmem, hshown⟩ := hbounded.proxyHost " " rfl
  rw [List.all_eq_true.mp hblank ch hmem] at hshown
  cases hshown

end Origin

end Properties

end ServiceClient

/-
**Flat properties and configurations.**

The same settings can be given as flat properties and as the section of a configuration.  Flat
properties are trimmed and then read freely; a section is read strictly and not trimmed.  Where both
are accepted the numbers are the same, because the two readings of an integer agree wherever both
find one.  The host is the same but for the blanks at its ends, which only flat properties lose.

Main definitions:

* `ServiceClient.Settings`: settings, of which each may be absent;
* `ServiceClient.Settings.flat`, `ServiceClient.Settings.config`: the two forms;
* `ServiceClient.Environment.OverridesNothing`: environments without overriding variables.

Main results:

* `ServiceClient.FlatProperties.eq_of_integer?`: a property that is read strictly as an integer is
  read freely as the same;
* `ServiceClient.Settings.find?_clientEntries`: what is bound is what is set;
* `ServiceClient.Settings.front_ends`: **both forms give the same properties, but for the blanks at
  the ends of a host**.
-/

import ServiceClient.Proofs.Properties
import ServiceClient.Proofs.Text.Reading

set_option autoImplicit false

namespace ServiceClient

/-! ### Environments -/

namespace Environment

variable {env : Environment}

/-- No variable is of the family that overrides keys. -/
def OverridesNothing (env : Environment) : Prop :=
  ∀ name text, env.get? name = some text → family.isPrefixOf name.toList = false

/-- The variable that overrides a key is of the family. -/
theorem family_isPrefixOf_override (key : String) :
    family.isPrefixOf (override key).toList = true := by
  rw [override, String.toList_ofList]
  split
  · rename_i h
    exact h
  · exact List.isPrefixOf_iff_prefix.mpr (List.prefix_append family _)

theorem OverridesNothing.get?_override (h : env.OverridesNothing) (key : String) :
    env.get? (override key) = none := by
  cases hvar : env.get? (override key) with
  | none => rfl
  | some text =>
      have hnot := h _ text hvar
      rw [family_isPrefixOf_override] at hnot
      cases hnot

end Environment

/-! ### Settings -/

/-- An integer, or a text without placeholders. -/
inductive Value.Plain : Value → Prop
  | int (n : Int) : Plain (.int n)
  | text {s : String} (free : Template.mayHold s.toList = false) : Plain (.text s)

/-- Settings of a client, of which each may be absent. -/
structure Settings where
  timeout : Option Value
  proxyHost : Option Value
  proxyPort : Option Value

namespace Settings

variable {s : Settings}

/-- Every setting is an integer, or a text without placeholders. -/
structure Plain (s : Settings) : Prop where
  timeout : ∀ v, s.timeout = some v → v.Plain
  proxyHost : ∀ v, s.proxyHost = some v → v.Plain
  proxyPort : ∀ v, s.proxyPort = some v → v.Plain

/-- The settings that are there, under three names. -/
def entries (s : Settings) (timeout proxyHost proxyPort : String) : Value.Entries :=
  [(timeout, s.timeout), (proxyHost, s.proxyHost), (proxyPort, s.proxyPort)].filterMap
    fun (name, v?) => v?.map fun v => (.text name, v)

def flatEntries (s : Settings) : Value.Entries :=
  s.entries FlatProperties.timeoutName FlatProperties.proxyHostName FlatProperties.proxyPortName

def flat (s : Settings) : Value :=
  .mapping s.flatEntries

def sectionEntries (s : Settings) : Value.Entries :=
  s.entries Properties.timeoutField Properties.proxyHostField Properties.proxyPortField

def config (s : Settings) : Config where
  data := .mapping [(.text "odata", .mapping [(.text "client", .mapping s.sectionEntries)])]

theorem find?_entries {a b c : String} (hab : a ≠ b) (hac : a ≠ c) (hbc : b ≠ c) (s : Settings) :
    Value.find? (.text a) (s.entries a b c) = s.timeout ∧
      Value.find? (.text b) (s.entries a b c) = s.proxyHost ∧
      Value.find? (.text c) (s.entries a b c) = s.proxyPort := by
  obtain ⟨timeout, proxyHost, proxyPort⟩ := s
  cases timeout <;> cases proxyHost <;> cases proxyPort <;>
    simp [entries, Value.find?, hab, hac, hbc, hab.symm, hac.symm, hbc.symm]

theorem part_config (s : Settings) : s.config.part Config.clientKey = s.sectionEntries := by
  have hnames : Config.names Config.clientKey = ["odata", "client"] := by decide +kernel
  rw [Config.part, Config.lookup, hnames]
  simp [config, Config.child, Value.find?, Value.entries]

end Settings

/-! ### What a configuration gives -/

section Bound

variable {c : Config} {env : Environment} {es : Value.Entries} {field : String}

/-- What is plain is read as it is, where nothing is overridden. -/
theorem Value.Plain.get {key : String} (hvar : env.get? (Environment.override key) = none)
    (h : (c.lookup key).Plain) : c.get env key .null = .ok (c.lookup key) := by
  rw [Config.get, hvar]
  generalize c.lookup key = v at h
  cases h with
  | int n => rfl
  | text hfree => simp [hfree]

/-- A field of the section is bound as it stands there, where nothing is overridden. -/
theorem find?_clientEntries_of_plain (henv : env.OverridesNothing)
    (h : c.clientEntries env = .ok es) (hfield : field ∈ Properties.fields)
    (hplain : ∀ v, Value.find? (.text field) (c.part Config.clientKey) = some v → v.Plain) :
    Value.find? (.text field) es = Value.find? (.text field) (c.part Config.clientKey) := by
  have hvar := henv.get?_override (Config.clientKey ++ "." ++ field)
  obtain ⟨v, hget, hfound⟩ := Config.find?_clientEntries h hfield
  have hlookup := Config.lookup_field (c := c) hfield
  rw [hfound]
  cases hsection : Value.find? (.text field) (c.part Config.clientKey) with
  | none =>
      rw [hsection] at hlookup
      rw [Config.get_of_null hvar hlookup] at hget
      cases hget
      rfl
  | some w =>
      rw [hsection] at hlookup
      have hw := hplain w hsection
      have hread : c.get env (Config.clientKey ++ "." ++ field) .null = .ok w := by
        rw [Value.Plain.get hvar (hlookup ▸ hw), hlookup]
        rfl
      rw [hread] at hget
      cases hget
      cases hw <;> rfl

end Bound

/-! ### What a flat property gives -/

namespace FlatProperties

variable {properties : Value.Entries} {name s : String} {v : Value}

theorem trimmed_of_text? (h : v.text? = some s) : trimmed v = .ok (Text.trim Text.isBlank s) := by
  rw [trimmed, h]

/-- Nothing is left of a blank text. -/
theorem isEmpty_trim (s : String) :
    (Text.trim Text.isBlank s).isEmpty = Text.allBlank s := by
  rw [Bool.eq_iff_iff, String.isEmpty_iff, Text.trim, String.ofList_eq_empty_iff,
    Text.trimList_eq_nil_iff, Text.allBlank, List.all_eq_true]

/-- A property that is there has the text of its value, unless that is blank. -/
theorem text?_present (hfind : Value.find? (.text name) properties = some v) (hnull : v ≠ .null)
    (htext : v.text? = some s) :
    text? properties name =
      .ok (if Text.allBlank s then none else some (Text.trim Text.isBlank s)) := by
  rw [text?, hfind]
  split
  · rename_i h
    cases h
  · rename_i h
    exact absurd (Option.some.inj h) hnull
  · rename_i w _ h
    rw [← Option.some.inj h, trimmed_of_text? htext, ← isEmpty_trim]
    rfl

theorem integer?_of_text? {t : Option String} (h : text? properties name = .ok t)
    {n? : Option Int} (hread : integer? properties name = .ok n?) :
    n? = none ∧ t = none ∨ ∃ s n, t = some s ∧ n? = some n ∧ Text.freeInteger? s.toList = some n := by
  rw [integer?, h] at hread
  cases t with
  | none =>
      cases hread
      exact .inl ⟨rfl, rfl⟩
  | some s =>
      cases hfree : Text.freeInteger? s.toList with
      | none =>
          simp only [bind, Except.bind, hfree] at hread
          cases hread
      | some n =>
          simp only [bind, Except.bind, hfree] at hread
          cases hread
          exact .inr ⟨s, n, rfl, rfl, hfree⟩

theorem eq_none_of_text? (h : text? properties name = .ok none) {n? : Option Int}
    (hread : integer? properties name = .ok n?) : n? = none := by
  rcases integer?_of_text? h hread with ⟨hnone, -⟩ | ⟨s, n, hsome, -⟩
  · exact hnone
  · cases hsome

/-- A property that is read strictly as an integer is read freely as the same. -/
theorem eq_of_integer? (hfind : Value.find? (.text name) properties = some v) (hnull : v ≠ .null)
    (htext : v.text? = some s) {n : Int} (hstrict : Text.strictInteger s.toList = .integer n)
    {n? : Option Int} (hread : integer? properties name = .ok n?) : n? = some n := by
  obtain ⟨-, hne⟩ := Text.trimList_of_strictInteger hstrict
  have hshown : Text.allBlank s = false := Bool.eq_false_iff.mpr fun h =>
    hne (Text.trimList_eq_nil_iff.mpr (List.all_eq_true.mp h))
  have hpresent := text?_present hfind hnull htext
  rw [hshown, if_neg Bool.false_ne_true] at hpresent
  rcases integer?_of_text? hpresent hread with ⟨-, hnone⟩ | ⟨t, m, ht, rfl, hfree⟩
  · cases hnone
  · cases ht
    rw [Text.trim, String.toList_ofList, Text.freeInteger?_trimList] at hfree
    rw [Text.eq_of_both_readings hstrict hfree]

/-- A property without a text has no integer. -/
theorem not_integer?_of_text? (hfind : Value.find? (.text name) properties = some v)
    (hnull : v ≠ .null) (htext : v.text? = none) (n? : Option Int) :
    integer? properties name ≠ .ok n? := by
  have herror : text? properties name = .error (.plain .value) := by
    rw [text?, hfind]
    split
    · rename_i h
      cases h
    · rename_i h
      exact absurd (Option.some.inj h) hnull
    · rename_i w _ h
      rw [← Option.some.inj h, trimmed, htext]
      rfl
  rw [integer?, herror]
  intro hread
  cases hread

/-- A number that fits a field is read from flat properties as the same. -/
theorem eq_of_checkInteger (hfind : Value.find? (.text name) properties = some v)
    (hplain : v.Plain) {n : Int} (hn : Properties.checkInteger v = .ok n) (hlow : 0 ≤ n)
    {n? : Option Int} (hread : integer? properties name = .ok n?) : n? = some n := by
  cases hplain with
  | int m =>
      cases hn
      obtain ⟨k, rfl⟩ := Int.eq_ofNat_of_zero_le hlow
      have hnull : Value.int k ≠ .null := by rintro ⟨⟩
      cases htext : (Value.int k).text? with
      | none => exact absurd hread (not_integer?_of_text? hfind hnull htext n?)
      | some s =>
          have hdigits := htext
          rw [Value.text?_int, integerText?] at hdigits
          split at hdigits
          · rename_i hbound
            rw [Int.natAbs_natCast] at hbound
            have hlength := (Text.length_toString_le_iff (by decide)).mpr hbound
            have hs : s = toString k := (Option.some.inj hdigits).symm
            rw [hs] at htext
            exact eq_of_integer? hfind hnull htext (Text.strictInteger_toString hlength) hread
          · cases hdigits
  | @text s hfree =>
      have hstrict : Text.strictInteger s.toList = .integer n := by
        rw [Properties.checkInteger, Properties.checkDigits] at hn
        split at hn
        · rename_i m hm
          rw [hm, Except.ok.inj hn]
        · cases hn
        · cases hn
      have hnull : Value.text s ≠ .null := by rintro ⟨⟩
      exact eq_of_integer? hfind hnull rfl hstrict hread

end FlatProperties

/-- A mapping is looked into, also an empty one. -/
theorem Properties.Origin.flatSource_mapping (es : Value.Entries) :
    flatSource (.mapping es) = .ok es := by
  rw [flatSource, Value.isEmpty]
  cases es with
  | nil => rfl
  | cons e rest => rfl

/-! ### Field by field -/

namespace Settings

open Properties (TimeoutFits ProxyHostFits ProxyPortFits)

variable {properties : Value.Entries} {name : String} {v? : Option Value}

/-- Both forms give the same time to wait. -/
theorem timeout_agrees (hfind : Value.find? (.text name) properties = v?)
    (hplain : ∀ v, v? = some v → v.Plain) {n? : Option Int}
    (hread : FlatProperties.integer? properties name = .ok n?) {a b : Option Nat}
    (ha : TimeoutFits (some ((n? <|> some 45000).elim .null .int)) a) (hb : TimeoutFits v? b) :
    a = b := by
  cases hb with
  | absent =>
      obtain rfl := FlatProperties.eq_none_of_text? (FlatProperties.text?_absent hfind) hread
      cases ha with
      | number hn =>
          cases hn
          rfl
  | null => exact nomatch hplain _ rfl
  | number hn hlow =>
      obtain rfl := FlatProperties.eq_of_checkInteger hfind (hplain _ rfl) hn hlow hread
      cases ha with
      | number hm =>
          cases hm
          rfl

/-- Both forms give the same port. -/
theorem proxyPort_agrees (hfind : Value.find? (.text name) properties = v?)
    (hplain : ∀ v, v? = some v → v.Plain) {n? : Option Int}
    (hread : FlatProperties.integer? properties name = .ok n?) {a b : Port}
    (ha : ProxyPortFits (some (.int (n?.getD 8888))) a) (hb : ProxyPortFits v? b) : a = b := by
  have ha' : (a.number : Int) = n?.getD 8888 := by
    cases ha with
    | number _ hn _ _ hsame =>
        cases hn
        exact hsame
    | missing h => cases h
  have hb' : (b.number : Int) = n?.getD 8888 := by
    cases hb with
    | absent =>
        obtain rfl := FlatProperties.eq_none_of_text? (FlatProperties.text?_absent hfind) hread
        rfl
    | missing hmissing =>
        cases hplain _ rfl with
        | int n => cases hmissing
        | @text s hfree =>
            have hblank : Text.allBlank s = true := hmissing
            have hnone := FlatProperties.text?_present hfind nofun rfl
            rw [if_pos hblank] at hnone
            obtain rfl := FlatProperties.eq_none_of_text? hnone hread
            rfl
    | number _ hn hlow _ hsame =>
        obtain rfl := FlatProperties.eq_of_checkInteger hfind (hplain _ rfl) hn (by omega) hread
        exact hsame
  obtain ⟨number, _, _⟩ := a
  obtain ⟨number', _, _⟩ := b
  obtain rfl : number = number' := Int.ofNat.inj (ha'.trans hb'.symm)
  rfl

/-- Both forms give the same host, but for the blanks at its ends. -/
theorem proxyHost_agrees (hfind : Value.find? (.text name) properties = v?)
    (hplain : ∀ v, v? = some v → v.Plain) {t : Option String}
    (hread : FlatProperties.text? properties name = .ok t) {a b : Option String}
    (ha : ProxyHostFits (some (t.elim .null .text)) a) (hb : ProxyHostFits v? b) :
    a = b.map (Text.trim Text.isBlank) := by
  cases hb with
  | absent =>
      rw [FlatProperties.text?_absent hfind] at hread
      cases hread
      cases ha
      rfl
  | null => exact nomatch hplain _ rfl
  | blank hblank =>
      rw [FlatProperties.text?_present hfind nofun rfl, if_pos hblank] at hread
      cases hread
      cases ha
      rfl
  | @shown s hshown =>
      rw [FlatProperties.text?_present hfind nofun rfl, hshown,
        if_neg Bool.false_ne_true] at hread
      cases hread
      -- trimming leaves something of what is not blank
      have hleft : Text.allBlank (Text.trim Text.isBlank s) = false := by
        rw [← FlatProperties.isEmpty_trim, Text.trim_trim, FlatProperties.isEmpty_trim, hshown]
      cases ha with
      | blank hblank =>
          rw [hleft] at hblank
          cases hblank
      | shown => rfl
  | decoded => exact nomatch hplain _ rfl

/-! ### All fields -/

variable {s : Settings} {env : Environment}

/-- What fits the entries of a section is bound as it stands there. -/
theorem fits_of_bind (hplain : s.Plain) (henv : env.OverridesNothing) {p : Properties}
    (h : s.config.bind env = .ok p) :
    TimeoutFits s.timeout p.timeout ∧ ProxyHostFits s.proxyHost p.proxyHost ∧
      ProxyPortFits s.proxyPort p.proxyPort := by
  have hmade : (Properties.Origin.config s.config env).properties = .ok p := h
  obtain ⟨es, hentries, hfits⟩ := Properties.Origin.properties_ok_iff.mp hmade
  obtain ⟨htimeout, hhost, hport⟩ :=
    find?_entries (a := Properties.timeoutField) (b := Properties.proxyHostField)
      (c := Properties.proxyPortField) (by decide) (by decide) (by decide) s
  have hbound : ∀ field ∈ Properties.fields, ∀ v?,
      Value.find? (.text field) s.sectionEntries = v? → (∀ v, v? = some v → v.Plain) →
      Value.find? (.text field) es = v? := by
    rintro field hfield v? rfl hv
    rw [← part_config] at hv ⊢
    exact find?_clientEntries_of_plain henv hentries hfield hv
  have h1 := hfits.timeout
  have h2 := hfits.proxyHost
  have h3 := hfits.proxyPort
  rw [hbound _ (by decide) _ htimeout hplain.timeout] at h1
  rw [hbound _ (by decide) _ hhost hplain.proxyHost] at h2
  rw [hbound _ (by decide) _ hport hplain.proxyPort] at h3
  exact ⟨h1, h2, h3⟩

/-- What flat properties give fits what is read from them. -/
theorem fits_of_flat {p : Properties} (h : Properties.ofFlat s.flat = .ok p) :
    ∃ timeout host port,
      FlatProperties.integer? s.flatEntries FlatProperties.timeoutName = .ok timeout ∧
      FlatProperties.text? s.flatEntries FlatProperties.proxyHostName = .ok host ∧
      FlatProperties.integer? s.flatEntries FlatProperties.proxyPortName = .ok port ∧
      TimeoutFits (some ((timeout <|> some 45000).elim .null .int)) p.timeout ∧
      ProxyHostFits (some (host.elim .null .text)) p.proxyHost ∧
      ProxyPortFits (some (.int (port.getD 8888))) p.proxyPort := by
  have hmade : (Properties.Origin.flat s.flat).properties = .ok p := h
  obtain ⟨es, hentries, hfits⟩ := Properties.Origin.properties_ok_iff.mp hmade
  rw [Properties.Origin.entries, flat, Properties.Origin.flatSource_mapping] at hentries
  obtain ⟨timeout, host, port, htimeout, hhost, hport, rfl⟩ := Properties.flatEntries_ok hentries
  exact ⟨timeout, host, port, htimeout, hhost, hport, hfits.timeout, hfits.proxyHost,
    hfits.proxyPort⟩

/-- A host that is bound is a setting that is not blank. -/
theorem proxyHost_of_fits (hplain : s.Plain) {host? : Option String}
    (h : ProxyHostFits s.proxyHost host?) (host : String) :
    host? = some host ↔ s.proxyHost = some (.text host) ∧ Text.allBlank host = false := by
  have hv := hplain.proxyHost
  generalize s.proxyHost = v? at h hv
  cases h with
  | absent => simp
  | null => simp
  | @blank t hblank =>
      refine ⟨nofun, fun ⟨hsome, hshown⟩ => ?_⟩
      cases hsome
      rw [hblank] at hshown
      cases hshown
  | @shown t hshown =>
      constructor
      · intro hsome
        cases hsome
        exact ⟨rfl, hshown⟩
      · rintro ⟨hsome, -⟩
        cases hsome
        rfl
  | decoded => exact nomatch hv _ rfl

/-- **Both forms give the same properties, but for the blanks at the ends of a host.**  So they give
the same if the host is blank or has no blanks at its ends. -/
theorem front_ends (hplain : s.Plain) (henv : env.OverridesNothing) {a b : Properties}
    (ha : Properties.ofFlat s.flat = .ok a) (hb : s.config.bind env = .ok b) :
    a = { b with proxyHost := b.proxyHost.map (Text.trim Text.isBlank) } ∧
      (a = b ↔ ∀ host, s.proxyHost = some (.text host) →
        Text.allBlank host = true ∨ Text.trim Text.isBlank host = host) := by
  obtain ⟨hfind, hfind', hfind''⟩ :=
    find?_entries (a := FlatProperties.timeoutName) (b := FlatProperties.proxyHostName)
      (c := FlatProperties.proxyPortName) (by decide) (by decide) (by decide) s
  obtain ⟨timeout, host, port, htimeout, hhost, hport, hfits, hfits', hfits''⟩ := fits_of_flat ha
  obtain ⟨hbound, hbound', hbound''⟩ := fits_of_bind hplain henv hb
  have hsame : a = { b with proxyHost := b.proxyHost.map (Text.trim Text.isBlank) } := by
    have h1 := timeout_agrees hfind hplain.timeout htimeout hfits hbound
    have h2 := proxyHost_agrees hfind' hplain.proxyHost hhost hfits' hbound'
    have h3 := proxyPort_agrees hfind'' hplain.proxyPort hport hfits'' hbound''
    rw [← h1, ← h2, ← h3]
  refine ⟨hsame, ?_⟩
  have hhosts : a = b ↔ b.proxyHost.map (Text.trim Text.isBlank) = b.proxyHost := by
    rw [hsame]
    constructor
    · exact fun h => congrArg Properties.proxyHost h
    · intro h
      rw [h]
  have hset := proxyHost_of_fits hplain hbound'
  rw [hhosts]
  constructor
  · intro heq host hhost
    cases hblank : Text.allBlank host with
    | true => exact .inl rfl
    | false =>
        rw [(hset host).mpr ⟨hhost, hblank⟩] at heq
        exact .inr (Option.some.inj heq)
  · intro htrimmed
    cases hb : b.proxyHost with
    | none => rfl
    | some host =>
        obtain ⟨hhost, hshown⟩ := (hset host).mp hb
        rcases htrimmed host hhost with hblank | htrim
        · rw [hblank] at hshown
          cases hshown
        · exact congrArg some htrim

/-- A number with blanks around it, one without, and a host without blanks. -/
theorem front_ends_padded :
    let s : Settings :=
      { timeout := some (.text " +1_500 "), proxyHost := some (.text "proxy"),
        proxyPort := some (.int 3128) }
    let env : Environment := [("ODATA", "1")]
    let p : Properties :=
      { timeout := some 1500, proxyHost := some "proxy", proxyPort := { number := 3128 } }
    s.Plain ∧ env.OverridesNothing ∧ Properties.ofFlat s.flat = .ok p ∧
      s.config.bind env = .ok p ∧
      p = { p with proxyHost := p.proxyHost.map (Text.trim Text.isBlank) } := by
  intro s env p
  have hplain : s.Plain := by
    refine ⟨fun v hv => ?_, fun v hv => ?_, fun v hv => ?_⟩
    · cases hv
      exact .text (by decide)
    · cases hv
      exact .text (by decide)
    · cases hv
      exact .int 3128
  have henv : env.OverridesNothing := by
    intro name text h
    by_cases hname : name = "ODATA"
    · subst hname
      decide
    · rw [Environment.get?, List.lookup_cons, beq_false_of_ne hname] at h
      cases h
  have hflat : Properties.ofFlat s.flat = .ok p := Properties.ok_of_toOption (by decide +kernel)
  have hbind : s.config.bind env = .ok p := Properties.ok_of_toOption (by decide +kernel)
  exact ⟨hplain, henv, hflat, hbind, (front_ends hplain henv hflat hbind).1⟩

/-- A host with a blank in front keeps it in one form only. -/
theorem front_ends_astray :
    let s : Settings :=
      { timeout := none, proxyHost := some (.text " proxy"), proxyPort := none }
    Template.mayHold " proxy".toList = false ∧
      Properties.ofFlat s.flat = .ok { proxyHost := some "proxy" } ∧
      s.config.bind [] = .ok { proxyHost := some " proxy" } := by
  intro s
  exact ⟨by decide, Properties.ok_of_toOption (by decide +kernel),
    Properties.ok_of_toOption (by decide +kernel)⟩

end Settings

end ServiceClient

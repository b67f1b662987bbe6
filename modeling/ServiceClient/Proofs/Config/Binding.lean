/-
**Properties from the environment.**

For each field of the properties there is a variable, and the variable wins over the tree.  So where
all of them are set, the tree is not looked at: whatever stands in the place of the section, and
whatever placeholders it holds, the properties that are bound, or the reasons why there are none,
are those of the variables.  Properties that are written to their variables are bound again as they
are.

Main definitions:

* `ServiceClient.Environment.Decides`: environments that set a variable for each field.

Main results:

* `ServiceClient.Properties.check_congr`: only the entries of the fields are checked;
* `ServiceClient.Config.exists_clientEntries`: **a field whose variable is set is read from there**;
* `ServiceClient.Config.bind_congr`: **an environment that decides lets all configurations be bound
  alike**;
* `ServiceClient.Config.bind_written`: **properties that are written to the environment are bound**.
-/

import ServiceClient.Config
import ServiceClient.Proofs.Text.Integer
import ServiceClient.Proofs.Value.Names

set_option autoImplicit false

namespace ServiceClient

/-! ### Checking -/

namespace Properties

variable {es es' : Value.Entries}

/-- Only the entries of the fields are checked. -/
theorem check_congr
    (h : ∀ field ∈ fields, Value.find? (.text field) es = Value.find? (.text field) es') :
    check es = check es' := by
  have htimeout := h timeoutField (by decide)
  have hhost := h proxyHostField (by decide)
  have hport := h proxyPortField (by decide)
  simp only [check, checkField, htimeout, hhost, hport]

/-- The number of a text is taken for a time to wait. -/
theorem checkTimeout_toString {n : Nat} (h : (toString n).length ≤ Text.digitLimit) :
    checkTimeout (.text (toString n)) = .ok (some n) := by
  rw [checkTimeout, checkInteger, checkDigits, Text.strictInteger_toString h]
  · rfl
  · nofun

theorem checkProxyHost_text {host : String} (h : Text.allBlank host = false) :
    checkProxyHost (.text host) = .ok (some host) := by
  rw [checkProxyHost, h]
  rfl

/-- The number of a port is not too long to be read. -/
theorem length_port_le (p : Port) : (toString p.number).length ≤ Text.digitLimit := by
  have hfive : (toString p.number).length ≤ 5 := by
    refine (Nat.length_repr_le_iff (by decide)).mpr ?_
    have := p.bounded
    omega
  exact Nat.le_trans hfive (by decide)

theorem checkProxyPort_toString (p : Port) :
    checkProxyPort (.text (toString p.number)) = .ok p := by
  have hshown : isMissing (.text (toString p.number)) = false := Text.allBlank_toString p.number
  rw [checkProxyPort, hshown, checkInteger, checkDigits,
    Text.strictInteger_toString (length_port_le p)]
  exact checkPort_number p

end Properties

/-! ### Variables -/

namespace Environment

def ofField (field : String) : String :=
  override (Config.clientKey ++ "." ++ field)

/-- A variable is set for each field. -/
def Decides (env : Environment) : Prop :=
  ∀ field ∈ Properties.fields, ∃ text, env.get? (ofField field) = some text

theorem ofField_timeout : ofField Properties.timeoutField = "ODATA_CLIENT_TIMEOUT" := by
  decide +kernel

theorem ofField_proxyHost : ofField Properties.proxyHostField = "ODATA_CLIENT_PROXY_HOST" := by
  decide +kernel

theorem ofField_proxyPort : ofField Properties.proxyPortField = "ODATA_CLIENT_PROXY_PORT" := by
  decide +kernel

end Environment

/-! ### Binding -/

namespace Config

variable {c c' : Config} {env : Environment}

def addField (c : Config) (env : Environment) (es : Value.Entries) (field : String) :
    Except Failure Value.Entries := do
  match ← c.get env (clientKey ++ "." ++ field) .null with
  | .null => pure es
  | v => pure (Value.put (.text field) v es)

theorem clientEntries_eq (c : Config) (env : Environment) :
    c.clientEntries env = Properties.fields.foldlM (c.addField env) (c.part clientKey) := rfl

/-- A field whose variable is set is read from there. -/
theorem addField_of_get? {field text : String}
    (h : env.get? (Environment.ofField field) = some text) (es : Value.Entries) :
    c.addField env es field = .ok (Value.put (.text field) (.text text) es) := by
  rw [addField, get_of_override h]
  rfl

/-- Fields whose variables are set are read from there, one after the other; nothing is changed
under other names. -/
theorem exists_foldlM_addField (c : Config) {fields : List String}
    (h : ∀ field ∈ fields, ∃ text, env.get? (Environment.ofField field) = some text)
    (es : Value.Entries) :
    ∃ es', fields.foldlM (c.addField env) es = .ok es' ∧
      (∀ field ∈ fields, ∀ text, env.get? (Environment.ofField field) = some text →
        Value.find? (.text field) es' = some (.text text)) ∧
      ∀ name, name ∉ fields → Value.find? (.text name) es' = Value.find? (.text name) es := by
  induction fields generalizing es with
  | nil => exact ⟨es, rfl, nofun, fun _ _ => rfl⟩
  | cons field rest ih =>
      obtain ⟨text, htext⟩ := h field (.head _)
      obtain ⟨es', hrun, hread, hkept⟩ :=
        ih (fun f hf => h f (.tail _ hf)) (Value.put (.text field) (.text text) es)
      refine ⟨es', ?_, fun f hf t ht => ?_, fun name hname => ?_⟩
      · rw [List.foldlM_cons, addField_of_get? htext]
        exact hrun
      · -- a field that comes again is read again, from the same variable
        by_cases hagain : f ∈ rest
        · exact hread f hagain t ht
        · obtain rfl : f = field := (List.mem_cons.mp hf).resolve_right hagain
          rw [hkept f hagain, Value.find?_put_self, Option.some.inj (htext.symm.trans ht)]
      · rw [List.mem_cons, not_or] at hname
        have hother : Value.text field ≠ .text name := by
          rintro ⟨⟩
          exact hname.1 rfl
        rw [hkept name hname.2, Value.find?_put_of_ne hother]

/-- **A field whose variable is set is read from there**, whatever the tree holds. -/
theorem exists_clientEntries (h : env.Decides) (c : Config) :
    ∃ es, c.clientEntries env = .ok es ∧
      ∀ field ∈ Properties.fields, ∀ text, env.get? (Environment.ofField field) = some text →
        Value.find? (.text field) es = some (.text text) := by
  obtain ⟨es, hrun, hread, -⟩ := exists_foldlM_addField c h (c.part clientKey)
  exact ⟨es, (clientEntries_eq c env).trans hrun, hread⟩

theorem bind_of_entries {es : Value.Entries} (h : c.clientEntries env = .ok es) :
    c.bind env = (Properties.check es).mapError (.unbound misfit) := by
  rw [bind, h]
  rfl

/-- **An environment that decides lets all configurations be bound alike.** -/
theorem bind_congr (h : env.Decides) (c c' : Config) : c.bind env = c'.bind env := by
  obtain ⟨es, hentries, hread⟩ := exists_clientEntries h c
  obtain ⟨es', hentries', hread'⟩ := exists_clientEntries h c'
  have hcheck : Properties.check es = Properties.check es' := by
    refine Properties.check_congr fun field hf => ?_
    obtain ⟨text, htext⟩ := h field hf
    rw [hread field hf text htext, hread' field hf text htext]
  rw [bind_of_entries hentries, bind_of_entries hentries', hcheck]

/-- **Properties that are written to the environment are bound**, over any configuration: a time to
wait and a port by their decimal texts, a host as it is. -/
theorem bind_written {p : Properties} {timeout : Nat} {host : String}
    (htimeout : p.timeout = some timeout) (hdigits : (toString timeout).length ≤ Text.digitLimit)
    (hhost : p.proxyHost = some host) (hshown : Text.allBlank host = false)
    (hset : env.get? "ODATA_CLIENT_TIMEOUT" = some (toString timeout))
    (hset' : env.get? "ODATA_CLIENT_PROXY_HOST" = some host)
    (hset'' : env.get? "ODATA_CLIENT_PROXY_PORT" = some (toString p.proxyPort.number))
    (c c' : Config) : c.bind env = .ok p ∧ c'.bind env = c.bind env := by
  rw [← Environment.ofField_timeout] at hset
  rw [← Environment.ofField_proxyHost] at hset'
  rw [← Environment.ofField_proxyPort] at hset''
  have hdecides : env.Decides := by
    simp only [Environment.Decides, Properties.fields, List.forall_mem_cons]
    exact ⟨⟨_, hset⟩, ⟨_, hset'⟩, ⟨_, hset''⟩, nofun⟩
  obtain ⟨es, hentries, hread⟩ := exists_clientEntries hdecides c
  have hfirst := hread Properties.timeoutField (by decide) _ hset
  have hsecond := hread Properties.proxyHostField (by decide) _ hset'
  have hthird := hread Properties.proxyPortField (by decide) _ hset''
  have hcheck : Properties.check es = .ok p := by
    simp only [Properties.check, Properties.checkField, hfirst, hsecond, hthird,
      Properties.checkTimeout_toString hdigits, Properties.checkProxyHost_text hshown,
      Properties.checkProxyPort_toString]
    rw [← htimeout, ← hhost]
    rfl
  exact ⟨by rw [bind_of_entries hentries, hcheck]; rfl, bind_congr hdecides c' c⟩

/-- Properties that are bound over a configuration which holds no mapping, and over one whose
section leads nowhere. -/
theorem bind_written_astray :
    let p : Properties := { timeout := some 0, proxyHost := some "proxy.local" }
    let env : Environment :=
      [("ODATA_CLIENT_TIMEOUT", "0"), ("ODATA_CLIENT_PROXY_HOST", "proxy.local"),
        ("ODATA_CLIENT_PROXY_PORT", "8888")]
    let inner : Value :=
      .mapping [(.text "timeout", .text "-1"), (.text "proxy_port", .text "$\x7bodata\x7d")]
    let c : Config := { data := .list [.null] }
    let c' : Config := { data := .mapping [(.text "odata", .mapping [(.text "client", inner)])] }
    c.bind env = .ok p ∧ c'.bind env = c.bind env :=
  bind_written rfl (by decide +kernel) rfl (by decide +kernel) rfl rfl rfl _ _

end Config

end ServiceClient

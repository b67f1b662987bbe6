/-
**What configuring a journal comes to.**

Configuring reads four settings, one after another: the format, the level of the root, the levels of
the loggers that the section of levels names, and the level of the transport.  The three levels are
kept as soon as they are read, and the format when all are.  Only then are the levels put into
effect, those of the section last; so the section has the last word about a logger of the transport
that it names, and a logger that nobody names keeps its level.

When a setting cannot be read, no logger changes its level.  But what was kept by then stays: a
level of the transport that cannot be read leaves the journal with the other levels of the
configuration that failed.  The section of levels may have keys that stand for no logger; then
everything is kept, and the levels are put into effect up to that key.

Main definitions:

* `ServiceClient.Logging.Configures`: what configuring comes to, by the setting that fails;
* `ServiceClient.Logging.Named`: a section whose entries have names;
* `ServiceClient.Logging.Follows`: levels that follow a configuration.

Main results:

* `ServiceClient.Logging.configures`: configuring comes to one of these;
* `ServiceClient.Logging.levels_follow`: **after a success the levels follow the configuration**;
* `ServiceClient.Logging.unchanged_iff`: **a failure leaves a journal as it was just if it has
  already what was read before**.
-/

import Mathlib.Tactic.MkIffOfInductiveProp
import ServiceClient.Proofs.Config.Substitution
import ServiceClient.Proofs.Config.Proper
import ServiceClient.Proofs.Logging.Levels
import ServiceClient.Proofs.Text.UpperCase

set_option autoImplicit false

namespace ServiceClient

/-! ### Sections of a proper configuration -/

namespace Config

variable {c : Config}

theorem proper_child {v : Value} (h : v.Proper) (name : String) : (child v name).Proper := by
  have hnull : Value.null.Proper := .other nofun
  rw [child]
  cases v with
  | mapping es =>
      cases hfind : Value.find? (.text name) es with
      | none => rw [Value.entries, hfind]; exact hnull
      | some w => rw [Value.entries, hfind]; exact h.find? hfind
  | _ => exact hnull

/-- What stands at a key of a proper tree is proper. -/
theorem proper_lookup (h : c.data.Proper) (key : String) : (c.lookup key).Proper := by
  rw [lookup]
  generalize c.data = v at h ⊢
  induction names key generalizing v with
  | nil => exact h
  | cons name rest ih => exact ih _ (proper_child h name)

/-- No section of a proper tree has a name twice. -/
theorem nodup_part (h : c.data.Proper) (key : String) : (Value.names (c.part key)).Nodup := by
  have hproper := proper_lookup h key
  rw [part]
  cases hat : c.lookup key with
  | mapping es =>
      rw [hat] at hproper
      exact hproper.nodup
  | _ => exact List.nodup_nil

end Config

namespace Logging

variable {env : Environment} {c : Config} {g : Option Failure} {j j' : Journal}

/-! ### The settings of a section -/

/-- A level that is read is what the text of its value is in upper case. -/
theorem text_of_upperText {v : Value} {level : String} (h : upperText v = .ok level) :
    ∃ text, v.text? = some text ∧ level = Text.upper text := by
  rw [upperText] at h
  cases htext : v.text? with
  | none =>
      rw [htext] at h
      cases h
  | some text =>
      rw [htext] at h
      exact ⟨text, rfl, (Except.ok.inj h).symm⟩

/-- A level that is read, and then put into upper case once more, is the level of its value. -/
theorem levelOf_upperText {v : Value} {level : String} (h : upperText v = .ok level) :
    LevelOf v (levelNumber (Text.upper level)) := by
  obtain ⟨text, htext, rfl⟩ := text_of_upperText h
  rw [Text.upper_upper]
  exact ⟨text, htext, names_levelNumber _⟩

/-- A section whose entries have names, none of them empty. -/
def Named (es : Value.Entries) : Prop :=
  ∀ e ∈ es, ∃ name, e.1 = .text name ∧ name ≠ ""

/-- The names of such entries are those of the loggers that their keys stand for. -/
theorem Named.names_eq_map {es : Value.Entries} (h : Named es) :
    Value.names es = es.map fun e => (loggerName e.1).toOption.getD "" := by
  induction es with
  | nil => rfl
  | cons e es ih =>
      obtain ⟨name, hname, -⟩ := h e (.head _)
      rw [Value.names_cons, ih fun e he => h e (.tail _ he), List.map_cons, hname]
      rfl

/-- The entries of a section, except that of the root. -/
def others (es : Value.Entries) : Value.Entries :=
  es.filter fun (k, _) => !k.sameKey (.text rootName)

theorem mem_others {es : Value.Entries} {e : Value × Value} :
    e ∈ others es ↔ e ∈ es ∧ e.1 ≠ .text rootName := by
  rw [others, List.mem_filter]
  simp only [Bool.not_eq_true', Bool.eq_false_iff, ne_eq, Value.sameKey_text_iff]

/-- The keys and levels that are read from entries whose values all have a text. -/
def readings (es : Value.Entries) : List (Value × String) :=
  es.map fun e => (e.1, Text.upper (e.2.text?.getD ""))

theorem readings_of_mapM {es : Value.Entries} {levels : List (Value × String)}
    (h : es.mapM (fun (k, v) => do pure (k, ← upperText v)) = (.ok levels : Except Failure _)) :
    levels = readings es ∧ ∀ e ∈ es, ∃ text, e.2.text? = some text := by
  induction es generalizing levels with
  | nil =>
      cases h
      exact ⟨rfl, nofun⟩
  | cons e es ih =>
      rw [List.mapM_cons] at h
      obtain ⟨first, hfirst, h⟩ := ok_of_bind h
      obtain ⟨level, hlevel, hfirst⟩ := ok_of_bind hfirst
      obtain ⟨rest, hrest, h⟩ := ok_of_bind h
      cases hfirst
      cases h
      obtain ⟨text, htext, rfl⟩ := text_of_upperText hlevel
      obtain ⟨rfl, htexts⟩ := ih hrest
      refine ⟨by simp [readings, htext], fun e' he' => ?_⟩
      rcases List.mem_cons.mp he' with rfl | he'
      · exact ⟨text, htext⟩
      · exact htexts e' he'

section Modules

variable {modules : List (Value × String)}

theorem readings_of_readModules (h : readModules c = .ok modules) :
    modules = readings (others (c.part levelKey)) ∧
      ∀ e ∈ others (c.part levelKey), ∃ text, e.2.text? = some text :=
  readings_of_mapM h

/-- What is read stands for the key of an entry, and that is not the one of the root. -/
theorem exists_mem_others (h : readModules c = .ok modules) {e : Value × String}
    (he : e ∈ modules) : ∃ entry ∈ others (c.part levelKey), entry.1 = e.1 := by
  obtain ⟨rfl, -⟩ := readings_of_readModules h
  obtain ⟨entry, hentry, rfl⟩ := List.mem_map.mp he
  exact ⟨entry, hentry, rfl⟩

/-- The level of an entry is read under its name. -/
theorem exists_mem_asked (h : readModules c = .ok modules) (hall : AllNamed modules)
    {name : String} {v : Value} (hname : name ≠ rootName)
    (hmem : (.text name, v) ∈ c.part levelKey) :
    ∃ level, upperText v = .ok level ∧ (name, level) ∈ asked modules := by
  obtain ⟨rfl, htexts⟩ := readings_of_readModules h
  have hother : (.text name, v) ∈ others (c.part levelKey) :=
    mem_others.mpr ⟨hmem, fun heq => hname (Value.text.inj heq)⟩
  obtain ⟨text, htext⟩ := htexts _ hother
  have hread : (.text name, Text.upper text) ∈ readings (others (c.part levelKey)) :=
    List.mem_map.mpr ⟨_, hother, by simp [htext]⟩
  exact ⟨Text.upper text, by rw [upperText, htext], hall.mem_asked hread rfl⟩

variable (hnames : Named (c.part levelKey))

include hnames

/-- The logger that is asked for has the name of an entry, and is not the root. -/
theorem name_of_mem_asked (h : readModules c = .ok modules) {e : String × String}
    (he : e ∈ asked modules) :
    Hierarchy.canonical e.1 = e.1 ∧ e.1 ≠ "" ∧ e.1 ∈ Value.names (c.part levelKey) := by
  obtain ⟨key, hkey, hread⟩ := exists_of_mem_asked he
  obtain ⟨entry, hentry, rfl⟩ := exists_mem_others h hread
  obtain ⟨hmem, hroot⟩ := mem_others.mp hentry
  obtain ⟨name, hname, hne⟩ := hnames entry hmem
  obtain rfl : name = e.1 := by
    rw [hname] at hkey
    exact Except.ok.inj hkey
  refine ⟨if_neg fun heq => hroot ?_, hne, List.mem_filterMap.mpr ⟨entry, hmem, ?_⟩⟩
  · exact hname.trans (congrArg Value.text heq)
  · rw [hname]
    rfl

/-- Where all entries have names, all keys that are read stand for loggers. -/
theorem allNamed_of_named (h : readModules c = .ok modules) : AllNamed modules := by
  intro e he
  obtain ⟨entry, hentry, hkey⟩ := exists_mem_others h he
  obtain ⟨name, hname, -⟩ := hnames entry (mem_others.mp hentry).1
  exact ⟨name, by rw [← hkey, hname]; rfl⟩

theorem nodup_asked (h : readModules c = .ok modules) (hdata : c.data.Proper) :
    ((asked modules).map fun e => Hierarchy.canonical e.1).Nodup := by
  have hcanonical : (asked modules).map (fun e => Hierarchy.canonical e.1) =
      (asked modules).map (·.1) :=
    List.map_congr_left fun e he => (name_of_mem_asked hnames h he).1
  rw [hcanonical, (allNamed_of_named hnames h).asked_eq]
  obtain ⟨rfl, -⟩ := readings_of_readModules h
  refine List.Sublist.nodup ?_ (Config.nodup_part hdata levelKey)
  rw [hnames.names_eq_map, readings, List.map_map, List.map_map]
  exact List.filter_sublist.map _

end Modules

/-! ### What configuring comes to -/

/-- What configuring a journal comes to: one way for each setting that cannot be read, and one if
all can. -/
inductive Configures (env : Environment) (c : Config) (g : Option Failure) (j : Journal) :
    Except Failure Unit × Journal → Prop
  | format {f : Failure} (hformat : readFormat env c = .error f) :
      Configures env c g j (.error (f.raisedDuring g), j)
  | root {format : Format} {f : Failure} (hformat : readFormat env c = .ok format)
      (hroot : readRoot c = .error f) : Configures env c g j (.error (f.raisedDuring g), j)
  | modules {format : Format} {root : String} {f : Failure}
      (hformat : readFormat env c = .ok format) (hroot : readRoot c = .ok root)
      (hmodules : readModules c = .error f) :
      Configures env c g j (.error (f.raisedDuring g), { j with rootLevel := root })
  | transport {format : Format} {root : String} {modules : List (Value × String)} {f : Failure}
      (hformat : readFormat env c = .ok format) (hroot : readRoot c = .ok root)
      (hmodules : readModules c = .ok modules) (htransport : readTransport env c = .error f) :
      Configures env c g j
        (.error (f.raisedDuring g), { j with rootLevel := root, moduleLevels := modules })
  | unnamed {format : Format} {root transport : String} {modules : List (Value × String)}
      (hformat : readFormat env c = .ok format) (hroot : readRoot c = .ok root)
      (hmodules : readModules c = .ok modules) (htransport : readTransport env c = .ok transport)
      (hkeys : ¬ AllNamed modules) :
      Configures env c g j
        (.error ((Failure.plain .type).raisedDuring g), Journal.inEffect format
          { j with rootLevel := root, moduleLevels := modules, transportLevel := transport })
  | done {format : Format} {root transport : String} {modules : List (Value × String)}
      (hformat : readFormat env c = .ok format) (hroot : readRoot c = .ok root)
      (hmodules : readModules c = .ok modules) (htransport : readTransport env c = .ok transport)
      (hkeys : AllNamed modules) :
      Configures env c g j
        (.ok (), Journal.inEffect format
          { j with rootLevel := root, moduleLevels := modules, transportLevel := transport })

/-- Configuring comes to one of these. -/
theorem configures (env : Environment) (c : Config) (g : Option Failure) (j : Journal) :
    Configures env c g j (Journal.configure env c g j) := by
  rw [Journal.configure]
  cases hformat : readFormat env c with
  | error f => exact .format hformat
  | ok format =>
      cases hroot : readRoot c with
      | error f => exact .root hformat hroot
      | ok root =>
          cases hmodules : readModules c with
          | error f => exact .modules hformat hroot hmodules
          | ok modules =>
              cases htransport : readTransport env c with
              | error f => exact .transport hformat hroot hmodules htransport
              | ok transport =>
                  -- everything is read; what is left is to put it into effect
                  obtain ⟨result, hrun, hresult⟩ := Journal.applyModules_eq modules g
                    (Journal.apply format { j with
                      rootLevel := root, moduleLevels := modules, transportLevel := transport })
                  change Configures env c g j (Journal.applyModules modules g (Journal.apply format
                    { j with
                      rootLevel := root, moduleLevels := modules, transportLevel := transport }))
                  rw [hrun, Journal.apply_eq]
                  rcases hresult with ⟨hkeys, rfl⟩ | ⟨hkeys, rfl⟩
                  · exact .done hformat hroot hmodules htransport hkeys
                  · exact .unnamed hformat hroot hmodules htransport hkeys

theorem eq_of_isOk {r : Except Failure Unit × Journal} (h : r.1.isOk = true) :
    r = (.ok (), r.2) := by
  obtain ⟨result, after⟩ := r
  cases result with
  | ok => rfl
  | error f => cases h

theorem exists_of_not_isOk {r : Except Failure Unit × Journal} (h : r.1.isOk = false) :
    ∃ f, r = (.error f, r.2) := by
  obtain ⟨result, after⟩ := r
  cases result with
  | ok => cases h
  | error f => exact ⟨f, rfl⟩

/-! ### Levels after a success -/

/-- Levels that follow a configuration, where others were in effect before. -/
structure Follows (env : Environment) (c : Config) (before after : Hierarchy) : Prop where
  /-- The root has the level of its entry. -/
  root : LevelOf ((Value.find? (.text rootName) (c.part levelKey)).getD (.text "INFO"))
    (after.own rootName)
  /-- Every other logger that the section names has the level of its entry. -/
  named : ∀ name v, name ≠ rootName → Value.find? (.text name) (c.part levelKey) = some v →
    LevelOf v (after.own name)
  /-- A logger of the transport that the section does not name has the level of the transport. -/
  transport : ∀ name ∈ transportLoggers, name ∉ Value.names (c.part levelKey) →
    ∃ v, c.get env transportKey (.text "WARNING") = .ok v ∧ LevelOf v (after.own name)
  /-- Every other logger keeps its level. -/
  kept : ∀ name, name ≠ "" → name ≠ rootName → name ∉ transportLoggers →
    name ∉ Value.names (c.part levelKey) → after.own name = before.own name

section Success

variable {format : Format} {name : String}

/-- A logger that the section does not name is not among the others. -/
theorem canonical_ne_of_notMem (hnames : Named (c.part levelKey))
    (hmodules : readModules c = .ok j.moduleLevels)
    (hname : name = rootName ∨ name ∉ Value.names (c.part levelKey)) :
    ∀ e ∈ asked j.moduleLevels, Hierarchy.canonical e.1 ≠ Hierarchy.canonical name := by
  intro e he hsame
  obtain ⟨hcanonical, hne, hmem⟩ := name_of_mem_asked hnames hmodules he
  rw [hcanonical] at hsame
  by_cases hroot : name = rootName
  · -- the root has the empty name
    rw [hsame, hroot] at hne
    exact hne rfl
  · have hself : Hierarchy.canonical name = name := if_neg hroot
    rw [hsame, hself] at hmem
    exact hname.elim hroot fun hnot => hnot hmem

/-- The root gets the level that was read for it. -/
theorem own_root_inEffect (hnames : Named (c.part levelKey))
    (hmodules : readModules c = .ok j.moduleLevels) :
    (Journal.inEffect format j).levels.own rootName = levelNumber (Text.upper j.rootLevel) := by
  rw [Journal.own_inEffect_of_ne (canonical_ne_of_notMem hnames hmodules (.inl rfl)),
    if_neg (by decide), if_pos (by decide)]

/-- What was read of a configuration, and then put into effect, follows it. -/
theorem follows_inEffect (hdata : c.data.Proper) (hnames : Named (c.part levelKey))
    (hroot : readRoot c = .ok j.rootLevel) (hmodules : readModules c = .ok j.moduleLevels)
    (htransport : readTransport env c = .ok j.transportLevel) :
    Follows env c j.levels (Journal.inEffect format j).levels where
  root := by
    rw [own_root_inEffect hnames hmodules]
    exact levelOf_upperText hroot
  named name v hname hfind := by
    obtain ⟨level, hlevel, hmem⟩ := exists_mem_asked hmodules (allNamed_of_named hnames hmodules)
      hname (Value.mem_of_find? hfind)
    rw [Journal.own_inEffect_of_mem (nodup_asked hnames hmodules hdata) hmem]
    exact levelOf_upperText hlevel
  transport name hmem hnot := by
    obtain ⟨v, hv, hlevel⟩ := ok_of_bind htransport
    have hcanonical : ∀ name ∈ transportLoggers, Hierarchy.canonical name ∈ transportLoggers := by
      decide
    rw [Journal.own_inEffect_of_ne (canonical_ne_of_notMem hnames hmodules (.inr hnot)),
      if_pos (hcanonical name hmem)]
    exact ⟨v, hv, levelOf_upperText hlevel⟩
  kept name hempty hroot hnot hnamed := by
    have hcanonical : Hierarchy.canonical name = name := if_neg hroot
    rw [Journal.own_inEffect_of_ne (canonical_ne_of_notMem hnames hmodules (.inr hnamed)),
      hcanonical, if_neg hnot, if_neg hempty]

end Success

/-- **After a success the levels follow the configuration**, whatever they were before, and whether
or not the entry of the root holds placeholders or has a variable. -/
theorem levels_follow (env : Environment) (c : Config) (g : Option Failure) (j : Journal)
    (hdata : c.data.Proper) (hnames : Named (c.part levelKey))
    (h : Journal.configure env c g j = (.ok (), j')) : Follows env c j.levels j'.levels := by
  have hrun := configures env c g j
  rw [h] at hrun
  cases hrun with
  | @done format root transport modules _ hroot hmodules htransport _ =>
      exact follows_inEffect (j :=
          { j with rootLevel := root, moduleLevels := modules, transportLevel := transport })
        hdata hnames hroot hmodules htransport

/-- A section that names a logger of the transport, and a logger with a level that there is not. -/
theorem levels_follow_overlapping :
    let c : Config :=
      { data := .mapping [(.text "odata", .mapping [(.text "logging", .mapping
          [ (.text "level", .mapping [(.text "root", .text "error"), (.text "httpx", .text "Debug"),
              (.text "a.b", .bool true)])
          , (.text "transport", .text "$\x7bLEVEL\x7d") ])])] }
    let env : Environment := [("LEVEL", "critical")]
    let j : Journal := { levels := [("a.b", 10), ("x", 40), ("", 30)] }
    let r := (Journal.configure env c).run j
    r.1.isOk = true ∧ Follows env c j.levels r.2.levels ∧
      ["root", "httpx", "httpcore", "a.b", "x"].map r.2.levels.own = [40, 10, 50, 20, 40] := by
  intro c env j r
  have htext : ∀ text, (Value.text text).Proper := fun _ => .other nofun
  have hlevels : (Value.mapping (c.part levelKey)).Proper := by
    refine .mapping (by decide +kernel) (List.forall_mem_cons.mpr ⟨htext _, ?_⟩)
    exact List.forall_mem_cons.mpr
      ⟨htext _, List.forall_mem_singleton.mpr (.other nofun)⟩
  have hlogging : (c.lookup "odata.logging").Proper :=
    .mapping (by decide +kernel)
      (List.forall_mem_cons.mpr ⟨hlevels, List.forall_mem_singleton.mpr (htext _)⟩)
  have hodata : (c.lookup "odata").Proper :=
    .mapping (by decide +kernel) (List.forall_mem_singleton.mpr hlogging)
  have hdata : c.data.Proper :=
    .mapping (by decide +kernel) (List.forall_mem_singleton.mpr hodata)
  have hnames : Named (c.part levelKey) :=
    List.forall_mem_cons.mpr ⟨⟨"root", rfl, by decide⟩, List.forall_mem_cons.mpr
      ⟨⟨"httpx", rfl, by decide⟩, List.forall_mem_singleton.mpr ⟨"a.b", rfl, by decide⟩⟩⟩
  have hok : r.1.isOk = true := by decide +kernel
  exact ⟨hok, levels_follow env c none j hdata hnames (eq_of_isOk hok), by decide +kernel⟩

/-! ### A journal after a failure -/

/-- The same levels under the same keys, in whatever order they stand.  A key is the same as itself,
even if it is no number. -/
def SameLevels (levels levels' : List (Value × String)) : Prop :=
  levels.length = levels'.length ∧
    ∀ e ∈ levels, ∃ e' ∈ levels', (e.1 = e'.1 ∨ e.1.sameKey e'.1 = true) ∧ e.2 = e'.2

theorem SameLevels.refl (levels : List (Value × String)) : SameLevels levels levels :=
  ⟨rfl, fun e he => ⟨e, he, .inl rfl, rfl⟩⟩

namespace Journal

/-- A journal that is as it was before: its settings, and the levels of all loggers. -/
@[mk_iff]
structure Same (before after : Journal) : Prop where
  root : after.rootLevel = before.rootLevel
  modules : SameLevels before.moduleLevels after.moduleLevels
  transport : after.transportLevel = before.transportLevel
  format : after.format = before.format
  levels : ∀ name, after.levels.own name = before.levels.own name

/-- Then the level that counts for a logger is as it was, too. -/
theorem Same.effective {after : Journal} (h : j.Same after) (name : String) :
    after.levels.effective name = j.levels.effective name := by
  rw [Hierarchy.effective, Hierarchy.effective]
  induction Hierarchy.canonical name :: Hierarchy.above (Hierarchy.canonical name).toList.reverse with
  | nil => rfl
  | cons first rest ih => rw [Hierarchy.firstLevel, Hierarchy.firstLevel, h.levels, ih]

/-- A journal that has already whatever is kept of a configuration and put into effect. -/
@[mk_iff]
structure Has (env : Environment) (c : Config) (j : Journal) : Prop where
  /-- The level of the root, if it is read. -/
  root : ∀ format, readFormat env c = .ok format → ∀ root, readRoot c = .ok root →
    root = j.rootLevel
  /-- The levels of other loggers, if they are read. -/
  modules : ∀ format, readFormat env c = .ok format → ∀ root, readRoot c = .ok root →
    ∀ modules, readModules c = .ok modules → SameLevels j.moduleLevels modules
  /-- The other settings and the levels of all loggers, if everything is read. -/
  effect : ∀ format, readFormat env c = .ok format → ∀ root, readRoot c = .ok root →
    ∀ modules, readModules c = .ok modules →
    ∀ transport, readTransport env c = .ok transport →
      transport = j.transportLevel ∧ format = j.format ∧
        ∀ name, (inEffect format { j with
          rootLevel := root, moduleLevels := modules, transportLevel := transport }).levels.own name =
            j.levels.own name

end Journal

/-- Every setting of a configuration can be read. -/
def Readable (env : Environment) (c : Config) : Prop :=
  (readFormat env c).isOk ∧ (readRoot c).isOk ∧ (readModules c).isOk ∧ (readTransport env c).isOk

/-- **A failure leaves a journal as it was just if it has already what was kept before.**  Unless
everything is read, the format, the level of the transport and the levels of all loggers are as they
were in any case. -/
theorem unchanged_iff (env : Environment) (c : Config) (g : Option Failure) (j : Journal)
    {f : Failure} (h : Journal.configure env c g j = (.error f, j')) :
    (¬ Readable env c → j'.format = j.format ∧ j'.transportLevel = j.transportLevel ∧
      j'.levels = j.levels ∧ j'.configured = j.configured) ∧ (j.Same j' ↔ j.Has env c) := by
  have hrun := configures env c g j
  rw [h] at hrun
  have hrefl := SameLevels.refl j.moduleLevels
  -- one case for each setting that cannot be read, the format first, and one for the keys
  cases hrun with
  | format hformat => simp [Journal.same_iff, Journal.has_iff, hformat, hrefl]
  | root hformat hroot => simp [Journal.same_iff, Journal.has_iff, hroot, hrefl]
  | modules hformat hroot hmodules =>
      simp [Journal.same_iff, Journal.has_iff, hformat, hroot, hmodules, hrefl]
  | transport hformat hroot hmodules htransport =>
      simp [Journal.same_iff, Journal.has_iff, hformat, hroot, hmodules, htransport]
  | unnamed hformat hroot hmodules htransport _ =>
      have hread : Readable env c := by
        rw [Readable, hformat, hroot, hmodules, htransport]
        exact ⟨rfl, rfl, rfl, rfl⟩
      refine ⟨fun hunread => absurd hread hunread, ?_⟩
      simp [Journal.same_iff, Journal.has_iff, hformat, hroot, hmodules, htransport,
        Journal.inEffect]

/-- The level of the transport cannot be read, and the journal has the other levels already, in
another order. -/
theorem unchanged_iff_same_levels :
    let c : Config :=
      { data := .mapping [(.text "odata", .mapping [(.text "logging", .mapping
          [ (.text "level", .mapping [(.text "root", .text "debug"), (.text "a", .int 7),
              (.null, .text "error")])
          , (.text "transport", .text "$\x7bnowhere\x7d") ])])] }
    let j : Journal :=
      { rootLevel := "DEBUG", moduleLevels := [(.null, "ERROR"), (.text "a", "7")] }
    let r := (Journal.configure [] c).run j
    r.1.isOk = false ∧ j.Same r.2 := by
  intro c j r
  have hfails : r.1.isOk = false := by decide +kernel
  have hroot : (readRoot c).toOption = some "DEBUG" := by decide +kernel
  have htransport : (readTransport [] c).isOk = false := by decide +kernel
  have hhas : j.Has [] c := by
    refine ⟨fun _ _ root hread => ?_, fun _ _ _ _ modules hread => ?_,
      fun _ _ _ _ _ _ transport hread => ?_⟩
    · rw [hread] at hroot
      exact Option.some.inj hroot
    · obtain ⟨rfl, -⟩ := readings_of_readModules hread
      have hothers : others (c.part levelKey) = [(.text "a", .int 7), (.null, .text "error")] := by
        cbv
      have hseven : Text.upper ((Value.int 7).text?.getD "") = "7" := by decide +kernel
      have herror : Text.upper ((Value.text "error").text?.getD "") = "ERROR" := by decide +kernel
      simp only [hothers, readings, List.map_cons, List.map_nil, hseven, herror]
      simp [SameLevels, j]
    · rw [hread] at htransport
      cases htransport
  obtain ⟨f, hrun⟩ := exists_of_not_isOk hfails
  exact ⟨hfails, (unchanged_iff [] c none j hrun).2.mpr hhas⟩

/-- A journal that was configured before has the levels of a configuration that failed: the level of
the transport cannot be read, and the others were kept by then.  Where a key stands for no logger
the level of the root is even in effect. -/
theorem changed_by_failure :
    let level (other : Value) : Value :=
      .mapping [(.text "root", .text "debug"), (other, .text "error")]
    let c : Config :=
      { data := .mapping [(.text "odata", .mapping [(.text "logging", .mapping
          [ (.text "level", level (.text "a")), (.text "transport", .text "$\x7bnowhere\x7d") ])])] }
    let c' : Config :=
      { data := .mapping [(.text "odata", .mapping [(.text "logging", .mapping
          [(.text "level", level (.int 1))])])] }
    let j := ((Journal.configure [] {}).run {}).2
    let r := (Journal.configure [] c).run j
    let r' := (Journal.configure [] c').run j
    (j.rootLevel = "INFO" ∧ j.moduleLevels.isEmpty ∧ j.levels.own rootName = 20) ∧
    (r.1.isOk = false ∧ r.2.rootLevel = "DEBUG" ∧ r.2.moduleLevels.map (·.2) = ["ERROR"]) ∧
    r'.1.isOk = false ∧ r'.2.levels.own rootName = 10 ∧ ¬ j.Same r.2 ∧ ¬ j.Same r'.2 := by
  intro level c c' j r r'
  have hinfo : j.rootLevel = "INFO" := by decide +kernel
  have hdebug : r.2.rootLevel = "DEBUG" := by decide +kernel
  have hdebug' : r'.2.rootLevel = "DEBUG" := by decide +kernel
  refine ⟨by decide +kernel, by decide +kernel, by decide +kernel, by decide +kernel,
    fun hsame => ?_, fun hsame => ?_⟩
  · have hroot := hsame.root
    rw [hinfo, hdebug] at hroot
    exact absurd hroot (by decide)
  · have hroot := hsame.root
    rw [hinfo, hdebug'] at hroot
    exact absurd hroot (by decide)

end Logging

end ServiceClient

/-
**The level of the root by its key.**

The format and the level of the transport are read from their keys.  The level of the root is taken
from the section of levels as it is written there, so its variable is not looked at and its
placeholders stay.  Where there is no variable and no placeholder the key reads the same: a null,
for which the key gives the level of information, names no level in the section, and so means that
level as well.

Main definitions:

* `ServiceClient.Logging.rootKey`: the key of the level of the root.

Main results:

* `ServiceClient.Config.resolve_of_plain`: a text without placeholders is resolved to itself;
* `ServiceClient.Logging.root_obeys`: **the level of the root is what its key reads**, where no
  variable overrides it and it holds no placeholder.
-/

import ServiceClient.Proofs.Config.Reference
import ServiceClient.Proofs.Logging.Configuring

set_option autoImplicit false

namespace ServiceClient

open ServiceClient.Template (Piece pieces written_pieces)

/-! ### Texts without placeholders -/

/-- Pieces that are no placeholders are the characters of their text. -/
theorem Template.eq_map_char {ps : List Piece} (h : ∀ inner, Piece.placeholder inner ∉ ps) :
    ps = (ps.flatMap Piece.written).map .char := by
  induction ps with
  | nil => rfl
  | cons piece ps ih =>
      have hrest := ih fun inner hmem => h inner (.tail _ hmem)
      cases piece with
      | char ch =>
          rw [List.flatMap_cons, List.map_append, ← hrest]
          rfl
      | placeholder inner => exact absurd (.head _) (h inner)

namespace Config

variable {c : Config} {env : Environment}

/-- A text without placeholders is resolved to itself. -/
theorem resolve_of_plain {text : String}
    (h : ∀ inner, Piece.placeholder inner ∉ pieces text.toList) :
    c.resolve env text = .ok text := by
  have hchars : pieces text.toList = text.toList.map .char := by
    conv => lhs; rw [Template.eq_map_char h, written_pieces]
  have hpieces : ∀ piece ∈ pieces text.toList,
      ∃ t, replacement c env (resolveWithin c env maxDepth) piece = .ok t ∧
        ∀ rest out, c.Expands env rest out → c.Expands env (piece :: rest) (t.toList ++ out) := by
    intro piece hmem
    cases piece with
    | char ch => exact ⟨_, rfl, fun rest out hrest => by simpa using hrest.char⟩
    | placeholder inner => exact absurd hmem (h inner)
  obtain ⟨parts, hparts, hexpands⟩ := exists_mapM_of_forall hpieces
  -- the characters also come to themselves
  rw [hchars] at hexpands
  have hself := String.toList_inj.mp (hexpands.unique (Expands.chars text.toList))
  rw [resolve, resolveWithin_succ, hparts, ← hself]
  rfl

end Config

namespace Logging

variable {env : Environment} {c : Config} {j' : Journal}

/-! ### The entry and the key -/

def rootKey : String := levelKey ++ "." ++ rootName

/-- The value at the key is that of the entry. -/
theorem lookup_rootKey (c : Config) :
    c.lookup rootKey = (Value.find? (.text rootName) (c.part levelKey)).getD .null := by
  have hnames : Config.names rootKey = Config.names levelKey ++ [rootName] := by decide +kernel
  rw [Config.lookup, hnames, List.foldl_append]
  rfl

/-- The level that is read from the entry is that of the value at the key. -/
theorem exists_get_rootKey (hvar : env.get? (Environment.override rootKey) = none)
    (hplain : ∀ text, Value.find? (.text rootName) (c.part levelKey) = some (.text text) →
      ∀ inner, Piece.placeholder inner ∉ pieces text.toList)
    {root : String} (hroot : readRoot c = .ok root) :
    ∃ v, c.get env rootKey (.text "INFO") = .ok v ∧ LevelOf v (levelNumber (Text.upper root)) := by
  have hlevel := levelOf_upperText hroot
  have hkey := lookup_rootKey c
  cases hfind : Value.find? (.text rootName) (c.part levelKey) with
  | none =>
      rw [hfind] at hkey hlevel
      exact ⟨_, Config.get_of_null hvar hkey _, hlevel⟩
  | some v =>
      rw [hfind] at hkey hlevel
      cases v with
      | null =>
          -- the text of a null names no level, and so stands for the one that the key gives
          obtain ⟨text, htext, hnamed⟩ := hlevel
          have hnone : Value.null.text? = some "None" := by decide +kernel
          obtain rfl := Option.some.inj (hnone.symm.trans htext)
          have hsame : levelNumber (Text.upper "None") = levelNumber (Text.upper "INFO") := by
            decide +kernel
          rw [hnamed.eq_levelNumber, hsame]
          exact ⟨_, Config.get_of_null hvar hkey _, "INFO", rfl, names_levelNumber _⟩
      | text text =>
          refine ⟨.text text, ?_, hlevel⟩
          rw [Config.get_of_text hvar hkey, Config.resolve_of_plain (hplain text hfind)]
          exact ite_self _
      | _ =>
          refine ⟨_, Config.get_of_other hvar ?_ ?_ _, hkey ▸ hlevel⟩
          · rw [hkey]
            nofun
          · rw [hkey]
            nofun

/-! ### The level that is applied -/

/-- **The level of the root is what its key reads**, where no variable overrides the key and the
entry holds no placeholder.  The logger of the root has that level if all entries have names. -/
theorem root_obeys (env : Environment) (c : Config) (g : Option Failure) (j : Journal)
    (hvar : env.get? "ODATA_LOGGING_LEVEL_ROOT" = none)
    (hplain : ∀ text, Value.find? (.text rootName) (c.part levelKey) = some (.text text) →
      ∀ inner, Piece.placeholder inner ∉ pieces text.toList)
    (h : Journal.configure env c g j = (.ok (), j')) :
    ∃ v, c.get env "odata.logging.level.root" (.text "INFO") = .ok v ∧
      LevelOf v (levelNumber (Text.upper j'.rootLevel)) ∧
      (Named (c.part levelKey) → LevelOf v (j'.levels.own rootName)) := by
  have hoverride : Environment.override rootKey = "ODATA_LOGGING_LEVEL_ROOT" := by decide +kernel
  rw [← hoverride] at hvar
  have hrun := configures env c g j
  rw [h] at hrun
  cases hrun with
  | @done format root transport modules _ hroot hmodules _ _ =>
      obtain ⟨v, hget, hlevel⟩ := exists_get_rootKey hvar hplain hroot
      refine ⟨v, hget, ?_, fun hnames => ?_⟩
      · exact hlevel
      · rw [own_root_inEffect hnames hmodules]
        exact hlevel

/-- An entry in lower case, beside one of another logger. -/
theorem root_obeys_error :
    let c : Config :=
      { data := .mapping [(.text "odata", .mapping [(.text "logging", .mapping
          [(.text "level", .mapping [(.text "a", .null), (.text "root", .text "error")])])])] }
    let r := (Journal.configure [] c).run {}
    r.1.isOk = true ∧ r.2.levels.own rootName = 40 ∧
      ∃ v, c.get [] "odata.logging.level.root" (.text "INFO") = .ok v ∧
        LevelOf v (r.2.levels.own rootName) := by
  intro c r
  have hok : r.1.isOk = true := by decide +kernel
  have hplain : ∀ text, Value.find? (.text rootName) (c.part levelKey) = some (.text text) →
      ∀ inner, Piece.placeholder inner ∉ pieces text.toList := by
    intro text hfind inner
    have herror : Value.find? (.text rootName) (c.part levelKey) = some (.text "error") := by cbv
    obtain rfl := Value.text.inj (Option.some.inj (herror.symm.trans hfind))
    rw [Template.pieces_of_mayHold (by decide)]
    simp
  have hnames : Named (c.part levelKey) :=
    List.forall_mem_cons.mpr
      ⟨⟨"a", rfl, by decide⟩, List.forall_mem_singleton.mpr ⟨"root", rfl, by decide⟩⟩
  obtain ⟨v, hget, -, hown⟩ := root_obeys [] c none {} rfl hplain (eq_of_isOk hok)
  exact ⟨hok, by decide +kernel, v, hget, hown hnames⟩

/-- The variable of the key is not looked at, and a placeholder of the entry is no level. -/
theorem root_astray :
    let env : Environment := [("ODATA_LOGGING_LEVEL_ROOT", "DEBUG")]
    let c : Config :=
      { data := .mapping [(.text "odata", .mapping [(.text "logging", .mapping
          [(.text "level", .mapping [(.text "root", .text "$\x7bLEVEL:ERROR\x7d")])])])] }
    let r := (Journal.configure env {}).run {}
    let r' := (Journal.configure [] c).run {}
    (r.1.isOk = true ∧ r.2.levels.own rootName = 20 ∧
      Config.get {} env "odata.logging.level.root" (.text "INFO") = .ok (.text "DEBUG") ∧
      ¬ Names (Text.upper "DEBUG") 20) ∧
    r'.1.isOk = true ∧ r'.2.levels.own rootName = 20 ∧
      c.get [] "odata.logging.level.root" (.text "INFO") = .ok (.text "ERROR") ∧
      ¬ Names (Text.upper "ERROR") 20 := by
  intro env c r r'
  have hdebug : Config.get {} env "odata.logging.level.root" (.text "INFO") = .ok (.text "DEBUG") :=
    Config.eq_of_isRead (by decide +kernel)
  have hdebugs : ¬ Names (Text.upper "DEBUG") 20 := fun h =>
    absurd h.eq_levelNumber (by decide +kernel)
  have herror : c.get [] "odata.logging.level.root" (.text "INFO") = .ok (.text "ERROR") :=
    Config.eq_of_isRead (by decide +kernel)
  have herrors : ¬ Names (Text.upper "ERROR") 20 := fun h =>
    absurd h.eq_levelNumber (by decide +kernel)
  exact ⟨⟨by decide +kernel, by decide +kernel, hdebug, hdebugs⟩, by decide +kernel,
    by decide +kernel, herror, herrors⟩

end Logging

end ServiceClient

/-
**Levels by name.**

The level of a logger is given as a value, whose text in upper case is the name of a level, and a
name that no level has stands for the level of information.  When the levels of several loggers are
set, one after another, a logger ends with the one that was set for it last, and a logger that is
not among them keeps its own.  The root goes by two names, so what counts is the logger and not the
name.  A logger is asked for by a key, and a key that stands for no logger ends the setting: the
loggers before it have their levels by then.

Main definitions:

* `ServiceClient.Logging.Names`, `ServiceClient.Logging.LevelOf`: the level that a name stands for,
  and the level of a value;
* `ServiceClient.Logging.Hierarchy.setAll`: levels that are set one after another;
* `ServiceClient.Logging.asked`: the loggers that keys ask for;
* `ServiceClient.Logging.Journal.inEffect`: a journal whose format and levels are put into effect.

Main results:

* `ServiceClient.Logging.names_levelNumber`, `Names.eq_levelNumber`: a name stands for its number;
* `ServiceClient.Logging.Hierarchy.own_setAll_of_mem`: a logger that is named once gets its level;
* `ServiceClient.Logging.Hierarchy.own_setAll_of_ne`: **a logger that is not named keeps its own**;
* `ServiceClient.Logging.Journal.applyModules_eq`: **putting levels into effect ends at a key that
  stands for no logger**;
* `ServiceClient.Logging.Journal.own_inEffect_of_mem`, `own_inEffect_of_ne`: **the levels of the
  others come before those of the root and of the transport**.
-/

import ServiceClient.Logging.Journal

set_option autoImplicit false

namespace ServiceClient.Logging

/-! ### The names of levels -/

/-- The level that a name stands for. -/
inductive Names (name : String) : Nat → Prop
  | known {level : Nat} : (name, level) ∈ levelNames → Names name level
  /-- A name that no level has. -/
  | unknown : name ∉ levelNames.map (·.1) → Names name LogLevel.info.number

/-- A name stands for its number. -/
theorem names_levelNumber (name : String) : Names name (levelNumber name) := by
  cases hlookup : levelNames.lookup name with
  | some level =>
      obtain ⟨front, back, hsplit, -⟩ := List.lookup_eq_some_iff.mp hlookup
      rw [levelNumber, hlookup, Option.getD_some]
      refine .known ?_
      rw [hsplit]
      exact List.mem_append_right _ (.head _)
  | none =>
      rw [levelNumber, hlookup, Option.getD_none]
      refine .unknown fun hmem => ?_
      obtain ⟨e, he, rfl⟩ := List.mem_map.mp hmem
      exact bne_iff_ne.mp (List.lookup_eq_none_iff.mp hlookup e he) rfl

/-- A name stands for one level. -/
theorem Names.eq_levelNumber {name : String} {level : Nat} (h : Names name level) :
    level = levelNumber name := by
  cases h with
  | known hmem =>
      have hnumbers : ∀ e ∈ levelNames, e.2 = levelNumber e.1 := by decide
      exact hnumbers _ hmem
  | unknown hnot =>
      have hlookup : levelNames.lookup name = none := by
        refine List.lookup_eq_none_iff.mpr fun e he => bne_iff_ne.mpr ?_
        rintro rfl
        exact hnot (List.mem_map_of_mem he)
      rw [levelNumber, hlookup, Option.getD_none]

/-- The level of a value: what its text in upper case stands for. -/
def LevelOf (v : Value) (level : Nat) : Prop :=
  ∃ text, v.text? = some text ∧ Names (Text.upper text) level

/-! ### Setting levels -/

namespace Hierarchy

variable {h : Hierarchy} {name : String} {named : List (String × String)}

/-- Levels, given by their names, that are set one after another. -/
def setAll (named : List (String × String)) (h : Hierarchy) : Hierarchy :=
  named.foldl (fun h e => h.setLevel e.1 (levelNumber (Text.upper e.2))) h

theorem own_setLevel (other : String) (level : Nat) (h : Hierarchy) :
    (h.setLevel other level).own name =
      if canonical name = canonical other then level else h.own name := by
  by_cases hsame : canonical name = canonical other
  · simp [own, setLevel, hsame]
  · have hother : (canonical name == canonical other) = false := beq_eq_false_iff_ne.mpr hsame
    simp [own, setLevel, List.lookup_cons, hother, hsame]

@[simp] theorem setAll_cons (e : String × String) (named : List (String × String))
    (h : Hierarchy) :
    h.setAll (e :: named) = (h.setLevel e.1 (levelNumber (Text.upper e.2))).setAll named := rfl

/-- **A logger for which no level is set keeps its own.** -/
theorem own_setAll_of_ne (hname : ∀ e ∈ named, canonical e.1 ≠ canonical name) :
    (h.setAll named).own name = h.own name := by
  induction named generalizing h with
  | nil => rfl
  | cons e named ih =>
      rw [setAll_cons, ih fun e' he' => hname e' (.tail _ he'), own_setLevel,
        if_neg (Ne.symm (hname e (.head _)))]

/-- A logger that is named once gets the level that stands with its name. -/
theorem own_setAll_of_mem {level : String} (hnames : (named.map fun e => canonical e.1).Nodup)
    (hmem : (name, level) ∈ named) :
    (h.setAll named).own name = levelNumber (Text.upper level) := by
  induction named generalizing h with
  | nil => cases hmem
  | cons e named ih =>
      obtain ⟨hfirst, hrest⟩ := List.nodup_cons.mp hnames
      rw [setAll_cons]
      rcases List.mem_cons.mp hmem with rfl | hmem
      · -- none of the others is the logger again
        have hothers : ∀ e ∈ named, canonical e.1 ≠ canonical name := by
          intro e he hsame
          exact hfirst (List.mem_map.mpr ⟨e, he, hsame⟩)
        rw [own_setAll_of_ne hothers, own_setLevel, if_pos rfl]
      · exact ih hrest hmem

/-- Some loggers get one level, and every other one keeps its own. -/
theorem own_setAll_map (names : List String) (level : String) :
    (h.setAll (names.map (·, level))).own name =
      if canonical name ∈ names.map canonical then levelNumber (Text.upper level)
      else h.own name := by
  induction names generalizing h with
  | nil => simp [setAll]
  | cons other names ih =>
      rw [List.map_cons, setAll_cons, ih, own_setLevel, List.map_cons]
      by_cases hsame : canonical name = canonical other
      · simp [hsame]
      · simp [hsame]

end Hierarchy

/-! ### Loggers that are asked for -/

/-- The loggers that keys ask for, with their levels, up to a key that stands for no logger. -/
def asked : List (Value × String) → List (String × String)
  | [] => []
  | (key, level) :: rest =>
      match loggerName key with
      | .ok name => (name, level) :: asked rest
      | .error _ => []

theorem asked_cons_of_ok {key : Value} {name : String} (h : loggerName key = .ok name)
    (level : String) (rest : List (Value × String)) :
    asked ((key, level) :: rest) = (name, level) :: asked rest := by
  rw [asked, h]

/-- A key stands for no logger for one reason. -/
theorem eq_of_loggerName_error {key : Value} {f : Failure} (h : loggerName key = .error f) :
    f = .plain .type := by
  unfold loggerName at h
  split at h
  · cases h
  · split at h
    · cases h
    · cases h
      rfl

/-- All keys stand for loggers. -/
def AllNamed (modules : List (Value × String)) : Prop :=
  ∀ e ∈ modules, ∃ name, loggerName e.1 = .ok name

/-- If all keys stand for loggers then all of these are asked for. -/
theorem AllNamed.asked_eq {modules : List (Value × String)} (h : AllNamed modules) :
    asked modules = modules.map fun e => ((loggerName e.1).toOption.getD "", e.2) := by
  induction modules with
  | nil => rfl
  | cons e rest ih =>
      obtain ⟨name, hname⟩ := h e (.head _)
      rw [asked_cons_of_ok hname, ih fun e he => h e (.tail _ he), List.map_cons, hname]
      rfl

theorem AllNamed.mem_asked {modules : List (Value × String)} (h : AllNamed modules) {key : Value}
    {level : String} (hmem : (key, level) ∈ modules) {name : String}
    (hname : loggerName key = .ok name) : (name, level) ∈ asked modules := by
  rw [h.asked_eq]
  exact List.mem_map.mpr ⟨_, hmem, by rw [hname]; rfl⟩

/-- A logger is asked for by a key. -/
theorem exists_of_mem_asked {modules : List (Value × String)} {e : String × String}
    (h : e ∈ asked modules) : ∃ key, loggerName key = .ok e.1 ∧ (key, e.2) ∈ modules := by
  induction modules with
  | nil => cases h
  | cons e' rest ih =>
      obtain ⟨key, level⟩ := e'
      cases hname : loggerName key with
      | error f =>
          rw [asked, hname] at h
          cases h
      | ok name =>
          rw [asked_cons_of_ok hname] at h
          rcases List.mem_cons.mp h with rfl | h
          · exact ⟨key, hname, .head _⟩
          · obtain ⟨key', hname', hmem⟩ := ih h
            exact ⟨key', hname', .tail _ hmem⟩

/-! ### Putting levels into effect -/

namespace Journal

theorem foldl_setLevel (named : List (String × String)) (s : Journal) :
    named.foldl (fun s (name, level) => s.setLevel name level) s =
      { s with levels := s.levels.setAll named } := by
  induction named generalizing s with
  | nil => rfl
  | cons e named ih => exact ih (s.setLevel e.1 e.2)

/-- What is put into effect first: a format, and the levels of the root and of the transport. -/
theorem apply_eq (format : Format) (s : Journal) :
    apply format s =
      { s with
        format
        configured := true
        levels := (s.levels.setLevel "" (levelNumber (Text.upper s.rootLevel))).setAll
          (transportLoggers.map (·, s.transportLevel)) } := by
  rw [apply, foldl_setLevel]
  rfl

/-- **Putting levels into effect ends at a key that stands for no logger**, and fails there. -/
theorem applyModules_eq (modules : List (Value × String)) (g : Option Failure) (s : Journal) :
    ∃ result, applyModules modules g s =
        (result, { s with levels := s.levels.setAll (asked modules) }) ∧
      (AllNamed modules ∧ result = .ok () ∨
        ¬ AllNamed modules ∧ result = .error ((Failure.plain .type).raisedDuring g)) := by
  induction modules generalizing s with
  | nil => exact ⟨.ok (), rfl, .inl ⟨nofun, rfl⟩⟩
  | cons e rest ih =>
      obtain ⟨key, level⟩ := e
      rw [applyModules]
      cases hname : loggerName key with
      | error f =>
          obtain rfl := eq_of_loggerName_error hname
          refine ⟨_, ?_, .inr ⟨fun hall => ?_, rfl⟩⟩
          · rw [asked, hname]
            rfl
          · obtain ⟨name, hok⟩ := hall _ (.head _)
            rw [hname] at hok
            cases hok
      | ok name =>
          have hall : AllNamed ((key, level) :: rest) ↔ AllNamed rest := by
            simp [AllNamed, hname]
          obtain ⟨result, hrun, hresult⟩ := ih (s.setLevel name level)
          refine ⟨result, ?_, by rwa [hall]⟩
          rw [asked_cons_of_ok hname]
          exact hrun

/-- A journal whose format and levels are put into effect, as far as its keys stand for loggers. -/
def inEffect (format : Format) (s : Journal) : Journal :=
  { s with
    format
    configured := true
    levels := ((s.levels.setLevel "" (levelNumber (Text.upper s.rootLevel))).setAll
      (transportLoggers.map (·, s.transportLevel))).setAll (asked s.moduleLevels) }

section Effect

variable {format : Format} {s : Journal} {name level : String}

theorem own_inEffect_of_mem
    (hnames : ((asked s.moduleLevels).map fun e => Hierarchy.canonical e.1).Nodup)
    (hmem : (name, level) ∈ asked s.moduleLevels) :
    (inEffect format s).levels.own name = levelNumber (Text.upper level) :=
  Hierarchy.own_setAll_of_mem hnames hmem

/-- A logger that is not among the others has the level of the transport if it belongs to it, and
that of the root if it is the root. -/
theorem own_inEffect_of_ne
    (hname : ∀ e ∈ asked s.moduleLevels, Hierarchy.canonical e.1 ≠ Hierarchy.canonical name) :
    (inEffect format s).levels.own name =
      if Hierarchy.canonical name ∈ transportLoggers then
        levelNumber (Text.upper s.transportLevel)
      else if Hierarchy.canonical name = "" then levelNumber (Text.upper s.rootLevel)
      else s.levels.own name := by
  have htransport : transportLoggers.map Hierarchy.canonical = transportLoggers := by decide
  have hroot : Hierarchy.canonical "" = "" := by decide
  rw [inEffect, Hierarchy.own_setAll_of_ne hname, Hierarchy.own_setAll_map, htransport,
    Hierarchy.own_setLevel, hroot]

end Effect

end Journal

end ServiceClient.Logging

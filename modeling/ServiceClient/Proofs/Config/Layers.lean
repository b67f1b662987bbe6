/-
**The last layer that has something to say about a path wins.**

A layer is *silent* about a path where a name of the path is missing; it *blocks* the path where
something that is no mapping ends the way early; otherwise it has a value at the end of the path.
Layers are laid over one another in an order, and what is found at a path is what the last one says
that is not silent about it.  A mapping there may hold more than that layer has written, because
mappings are merged; any other value is exactly the value that was written.

Main definitions:

* `ServiceClient.Config.sight`, `ServiceClient.Config.Sight.Leaves`: what a mapping says about a
  path, and what that leaves to be found;
* `ServiceClient.Config.lastWord`: what the last layer says that is not silent;
* `ServiceClient.Config.places`, `ServiceClient.Config.layers`: where the files of a configuration
  may lie, and the mappings of those that are there.

Main results:

* `ServiceClient.Config.leaves_found_merge`: what is found at a path of two layers;
* `ServiceClient.Config.leaves_lastWord`: what is found at a path of any number of layers;
* `ServiceClient.Config.lookup_ofFolder`: **what is found in the configuration of a folder**, and
  which sources it lists.
-/

import ServiceClient.Config.Source
import ServiceClient.Proofs.Config.Proper

set_option autoImplicit false

namespace ServiceClient.Config

open Value (Entries Proper overlay merge overlay_mapping_of_not overlay_of_not_mapping find?_merge)

variable {path : List String} {lower upper es : Entries} {v : Value}

/-! ### Paths -/

/-- What is found at a path in a value; null if there is nothing. -/
def found (path : List String) (v : Value) : Value :=
  path.foldl child v

@[simp] theorem found_cons (name : String) (path : List String) (v : Value) :
    found (name :: path) v = found path (child v name) := rfl

theorem child_mapping (es : Entries) (name : String) :
    child (.mapping es) name = (Value.find? (.text name) es).getD .null := rfl

theorem child_of_not_mapping (h : ∀ es, v ≠ .mapping es) (name : String) : child v name = .null := by
  cases v with
  | mapping es => exact absurd rfl (h es)
  | _ => rfl

theorem found_null (path : List String) : found path .null = .null := by
  induction path with
  | nil => rfl
  | cons name rest ih => exact ih

/-- No way leads through what is no mapping. -/
theorem found_cons_of_not_mapping (h : ∀ es, v ≠ .mapping es) (name : String) (path : List String) :
    found (name :: path) v = .null := by
  rw [found_cons, child_of_not_mapping h, found_null]

theorem splitAt_ne_nil (isMark : Char → Bool) (cs : List Char) : Text.splitAt isMark cs ≠ [] := by
  cases cs with
  | nil => simp [Text.splitAt]
  | cons c rest =>
      rw [Text.splitAt]
      split
      · simp
      · split <;> simp

/-- A key has at least one name. -/
theorem names_ne_nil (key : String) : names key ≠ [] := by
  rw [names, ne_eq, List.map_eq_nil_iff]
  exact splitAt_ne_nil _ _

/-! ### What a mapping says -/

/-- What a mapping says about a path. -/
inductive Sight
  /-- A name of the path is missing. -/
  | silent
  /-- Something that is no mapping ends the way early. -/
  | blocking
  /-- This value is at the end of the path. -/
  | value (v : Value)
  deriving Repr, Inhabited

namespace Sight

/-- Whether anything is said. -/
def speaks : Sight → Bool
  | .silent => false
  | _ => true

/-- What is found after something is said, where something else was found before: the same where
nothing is said, nothing where the way ends early, some mapping where a mapping is said, and else
exactly the value that is said. -/
def Leaves (before : Value) : Sight → Value → Prop
  | .silent, after => after = before
  | .blocking, after => after = .null
  | .value (.mapping _), after => ∃ es, after = .mapping es
  | .value v, after => after = v

theorem leaves_value (h : ∀ es, v ≠ .mapping es) (before : Value) :
    (Sight.value v).Leaves before v := by
  cases v with
  | mapping es => exact absurd rfl (h es)
  | _ => rfl

/-- What is said leaves the same, whatever was found before, unless nothing is said. -/
theorem Leaves.of_speaks {s : Sight} {before after : Value} (h : s.Leaves before after)
    (hs : s.speaks = true) (before' : Value) : s.Leaves before' after := by
  cases s with
  | silent => cases hs
  | blocking => exact h
  | value v => cases v <;> exact h

end Sight

/-- What a mapping says about a path. -/
def sight : List String → Entries → Sight
  | [], es => .value (.mapping es)
  | name :: rest, es =>
      match Value.find? (.text name) es with
      | none => .silent
      | some (.mapping inner) => sight rest inner
      | some v => if rest.isEmpty then .value v else .blocking

section Sights

variable {name : String} {rest : List String}

theorem sight_of_none (h : Value.find? (.text name) es = none) :
    sight (name :: rest) es = .silent := by
  simp [sight, h]

theorem sight_of_mapping {inner : Entries} (h : Value.find? (.text name) es = some (.mapping inner)) :
    sight (name :: rest) es = sight rest inner := by
  simp [sight, h]

theorem sight_of_not_mapping (h : Value.find? (.text name) es = some v)
    (hv : ∀ es, v ≠ .mapping es) :
    sight (name :: rest) es = if rest.isEmpty then .value v else .blocking := by
  cases v with
  | mapping inner => exact absurd rfl (hv inner)
  | _ => simp [sight, h]

end Sights

/-- What is no mapping is found at the end of a path, and ends it early otherwise. -/
theorem leaves_found_end (hv : ∀ es, v ≠ .mapping es) (path : List String) (before : Value) :
    (if path.isEmpty then Sight.value v else .blocking).Leaves before (found path v) := by
  cases path with
  | nil => exact Sight.leaves_value hv before
  | cons next rest => exact found_cons_of_not_mapping hv next rest

/-- What is found in a mapping is what it says. -/
theorem leaves_found (path : List String) (es : Entries) :
    (sight path es).Leaves .null (found path (.mapping es)) := by
  induction path generalizing es with
  | nil => exact ⟨es, rfl⟩
  | cons name rest ih =>
      rw [found_cons, child_mapping]
      cases hfind : Value.find? (.text name) es with
      | none =>
          rw [sight_of_none hfind]
          exact found_null rest
      | some v =>
          by_cases hv : ∀ es, v ≠ .mapping es
          · rw [sight_of_not_mapping hfind hv]
            exact leaves_found_end hv rest .null
          · obtain ⟨inner, rfl⟩ := Classical.not_forall_not.mp hv
            rw [sight_of_mapping hfind]
            exact ih inner

/-- The same where a mapping takes the place of what is none. -/
theorem leaves_found_of_not_mapping (hv : ∀ es, v ≠ .mapping es) (path : List String)
    (es : Entries) : (sight path es).Leaves (found path v) (found path (.mapping es)) := by
  cases path with
  | nil => exact ⟨es, rfl⟩
  | cons name rest =>
      rw [found_cons_of_not_mapping hv]
      exact leaves_found (name :: rest) es

/-! ### Two layers -/

/-- What the children of two merged layers are. -/
theorem child_merge (hupper : (Value.mapping upper).Proper) (lower : Entries) (name : String) :
    child (.mapping (merge lower upper)) name =
      match Value.find? (.text name) upper with
      | none => child (.mapping lower) name
      | some v => overlay (Value.find? (.text name) lower) v := by
  rw [child_mapping, find?_merge hupper.nodup]
  cases Value.find? (.text name) upper <;> rfl

/-- **What is found at a path of two layers** is what the upper one says, over what the lower one
has. -/
theorem leaves_found_merge (hupper : (Value.mapping upper).Proper) (lower : Entries) :
    (sight path upper).Leaves (found path (.mapping lower))
      (found path (.mapping (merge lower upper))) := by
  -- by induction on the path, as long as both layers have mappings on the way
  induction path generalizing lower upper with
  | nil => exact ⟨_, rfl⟩
  | cons name rest ih =>
      rw [found_cons, found_cons, child_merge hupper]
      cases hfind : Value.find? (.text name) upper with
      | none =>
          rw [sight_of_none hfind]
          rfl
      | some v =>
          by_cases hv : ∀ es, v ≠ .mapping es
          · dsimp only
            rw [overlay_of_not_mapping hv, sight_of_not_mapping hfind hv]
            exact leaves_found_end hv rest _
          · obtain ⟨inner, rfl⟩ := Classical.not_forall_not.mp hv
            rw [sight_of_mapping hfind, child_mapping]
            cases hlower : Value.find? (.text name) lower with
            | none => exact leaves_found_of_not_mapping (v := .null) (by simp) rest inner
            | some w =>
                by_cases hw : ∀ es, w ≠ .mapping es
                · dsimp only
                  rw [overlay_mapping_of_not fun es hes => hw es (Option.some.inj hes)]
                  exact leaves_found_of_not_mapping hw rest inner
                · obtain ⟨below, rfl⟩ := Classical.not_forall_not.mp hw
                  exact ih (hupper.find? hfind) below

/-! ### Any number of layers -/

/-- What the last layer says about a path that is not silent about it. -/
def lastWord (path : List String) (layers : List Entries) : Sight :=
  ((layers.map (sight path)).filter Sight.speaks).getLast?.getD .silent

theorem lastWord_concat (path : List String) (layers : List Entries) (upper : Entries) :
    lastWord path (layers ++ [upper]) =
      if (sight path upper).speaks then sight path upper else lastWord path layers := by
  cases hspeaks : (sight path upper).speaks <;> simp [lastWord, hspeaks]

theorem leaves_lastWord_nil (h : path ≠ []) :
    (lastWord path []).Leaves .null (found path (.mapping [])) := by
  cases path with
  | nil => exact absurd rfl h
  | cons name rest => exact found_null rest

theorem leaves_lastWord_singleton (path : List String) (es : Entries) :
    (lastWord path [es]).Leaves .null (found path (.mapping es)) := by
  have hfound := leaves_found path es
  cases hsight : sight path es <;> simpa [lastWord, hsight, Sight.speaks] using hfound

/-- One more layer: what is found is still what the last one says that is not silent. -/
theorem leaves_lastWord_concat {layers : List Entries} (hupper : (Value.mapping upper).Proper)
    (h : (lastWord path layers).Leaves .null (found path (.mapping lower))) :
    (lastWord path (layers ++ [upper])).Leaves .null (found path (.mapping (merge lower upper))) := by
  have hmerge : (sight path upper).Leaves (found path (.mapping lower))
      (found path (.mapping (merge lower upper))) := leaves_found_merge hupper lower
  rw [lastWord_concat]
  cases hsight : sight path upper with
  | silent =>
      rw [hsight] at hmerge
      rw [if_neg (by simp [Sight.speaks]), hmerge]
      exact h
  | blocking =>
      rw [hsight] at hmerge
      exact hmerge.of_speaks rfl .null
  | value v =>
      rw [hsight] at hmerge
      exact hmerge.of_speaks rfl .null

/-- **What is found at a path of some layers** is what the last of them says that is not silent. -/
theorem leaves_lastWord {below above : List Entries}
    (habove : ∀ es ∈ above, (Value.mapping es).Proper)
    (h : (lastWord path below).Leaves .null (found path (.mapping lower))) :
    (lastWord path (below ++ above)).Leaves .null
      (found path (.mapping (above.foldl merge lower))) := by
  induction above generalizing below lower with
  | nil => rwa [List.append_nil]
  | cons es rest ih =>
      rw [List.append_cons, List.foldl_cons]
      refine ih (fun es' hes' => habove es' (.tail _ hes')) ?_
      exact leaves_lastWord_concat (habove es (.head _)) h

/-! ### The files of a folder -/

/-- The mapping of the file at a path. -/
def mapping? (f : Folder) (path : FilePath) : Option Entries :=
  match f.file? path with
  | none => none
  | some content =>
      match (FileFormat.ofPath path).read content with
      | .ok (.mapping es) => some es
      | _ => none

theorem proper_of_mapping? {f : Folder} {path : FilePath} (h : mapping? f path = some es) :
    (Value.mapping es).Proper := by
  unfold mapping? at h
  split at h
  · cases h
  · split at h
    · rename_i hread
      cases h
      exact FileFormat.proper_read hread
    · cases h

/-- The names of the files of a configuration with some active profiles, each with the remark that
follows their paths among the sources. -/
def stems (profiles : List String) : List (String × String) :=
  (stem, "") ::
    profiles.map fun profile => (stem ++ "-" ++ profile, " (profile: " ++ profile ++ ")")

/-- Where the files of a configuration may lie, in the order in which they are laid over one
another, each with the remark that follows its path. -/
def places (profiles : List String) : List (FilePath × String) :=
  (stems profiles).flatMap fun (name, remark) => (candidates name).map (·, remark)

/-- The places at which there are files. -/
def present (f : Folder) (ps : List (FilePath × String)) : List (FilePath × String) :=
  ps.filter fun place => (f.file? place.1).isSome

/-- The mappings of the files at some places. -/
def mappings (f : Folder) (ps : List (FilePath × String)) : List Entries :=
  ps.filterMap fun place => mapping? f place.1

/-- The layers of a configuration: the bundled defaults, if they are loaded, and the mappings of its
files. -/
def layers (f : Folder) (profiles : List String) (loadDefaults : Bool) : List Entries :=
  (if loadDefaults then [bundled] else []) ++ mappings f (places profiles)

/-- What a place is called among the sources. -/
def source (base : String) (place : FilePath × String) : String :=
  place.1.below base ++ place.2

section Files

variable {base : String} {f : Folder}

/-- Lays the files at some places over a configuration. -/
def layPlaces (base : String) (f : Folder) (ps : List (FilePath × String)) (c : Config) :
    Except Failure Config :=
  ps.foldlM (fun c place => layerFile f c place.1 (source base place)) c

theorem layerFiles_eq (name remark : String) (c : Config) :
    layerFiles base f name remark c = layPlaces base f ((candidates name).map (·, remark)) c := by
  rw [layerFiles, layPlaces, List.foldlM_map]
  rfl

theorem layPlaces_append (ps qs : List (FilePath × String)) (c : Config) :
    layPlaces base f (ps ++ qs) c = layPlaces base f ps c >>= layPlaces base f qs := by
  rw [layPlaces, List.foldlM_append]
  rfl

theorem layProfiles_eq (profiles : List String) (c : Config) :
    profiles.foldlM
        (fun c profile =>
          layerFiles base f (stem ++ "-" ++ profile) (" (profile: " ++ profile ++ ")") c) c =
      layPlaces base f
        (profiles.flatMap fun profile =>
          (candidates (stem ++ "-" ++ profile)).map (·, " (profile: " ++ profile ++ ")")) c := by
  induction profiles generalizing c with
  | nil => rfl
  | cons profile rest ih =>
      rw [List.foldlM_cons, List.flatMap_cons, layPlaces_append, layerFiles_eq]
      congr 1
      funext c
      exact ih c

/-- The configuration of a folder lays the files of all places over the defaults. -/
theorem ofFolder_eq (base : String) (f : Folder) (profiles : List String) (loadDefaults : Bool) :
    ofFolder base f profiles loadDefaults =
      layPlaces base f (places profiles) (defaults loadDefaults) := by
  rw [places, stems, List.flatMap_cons, List.flatMap_map, layPlaces_append, ← layerFiles_eq]
  rw [ofFolder]
  congr 1
  funext c
  exact layProfiles_eq profiles c

/-- A file that is there and is read as a mapping is laid over what is there already. -/
theorem layerFile_of_mapping {path : FilePath} (h : mapping? f path = some es) (lower : Entries)
    (sources : List String) (source : String) :
    layerFile f { data := .mapping lower, sources } path source =
      .ok { data := .mapping (merge lower es), sources := sources ++ [source] } := by
  unfold mapping? at h
  split at h
  · cases h
  · rename_i content hfile
    split at h
    · rename_i hread
      cases h
      rw [layerFile, hfile]
      dsimp only
      rw [hread]
      rfl
    · cases h

theorem mappings_cons_of_some {place : FilePath × String} (h : mapping? f place.1 = some es)
    (rest : List (FilePath × String)) :
    mappings f (place :: rest) = es :: mappings f rest := by
  simp [mappings, h]

/-- Nothing is read where there is no file, and nothing is laid over what is there already. -/
theorem absent {place : FilePath × String} (h : f.file? place.1 = none)
    (rest : List (FilePath × String)) :
    present f (place :: rest) = present f rest ∧ mappings f (place :: rest) = mappings f rest ∧
      ∀ c source, layerFile f c place.1 source = .ok c := by
  have hnone : mapping? f place.1 = none := by rw [mapping?, h]
  refine ⟨by simp [present, h], by simp [mappings, hnone], fun c source => ?_⟩
  rw [layerFile, h]

/-- Files that are read as mappings are laid over what is there already, one after another. -/
theorem layPlaces_of_mappings {ps : List (FilePath × String)}
    (h : ∀ place ∈ present f ps, (mapping? f place.1).isSome) (lower : Entries)
    (sources : List String) :
    layPlaces base f ps { data := .mapping lower, sources } =
      .ok
        { data := .mapping ((mappings f ps).foldl merge lower)
          sources := sources ++ (present f ps).map (source base) } := by
  induction ps generalizing lower sources with
  | nil => simp [layPlaces, present, mappings, pure, Except.pure]
  | cons place rest ih =>
      have hcons : ∀ c, layPlaces base f (place :: rest) c =
          layerFile f c place.1 (source base place) >>= layPlaces base f rest := fun c => rfl
      rw [hcons]
      cases hfile : f.file? place.1 with
      | none =>
          obtain ⟨hpresent, hmappings, hstay⟩ := absent hfile rest
          rw [hpresent] at h ⊢
          rw [hstay, hmappings]
          exact ih h lower sources
      | some content =>
          have hpresent : present f (place :: rest) = place :: present f rest :=
            List.filter_cons_of_pos (by simp [hfile])
          rw [hpresent] at h ⊢
          obtain ⟨es, hes⟩ := Option.isSome_iff_exists.mp (h place (.head _))
          rw [layerFile_of_mapping hes, mappings_cons_of_some hes]
          refine (ih (fun place hplace => h place (.tail _ hplace)) (merge lower es) _).trans ?_
          rw [List.foldl_cons, List.map_cons, List.append_assoc, List.singleton_append]

/-- What is loaded first is a mapping, and what is found in it is what its only layer says. -/
theorem exists_defaults (loadDefaults : Bool) :
    ∃ lower, defaults loadDefaults =
        { data := .mapping lower, sources := (defaults loadDefaults).sources } ∧
      ∀ path ≠ [], (lastWord path (if loadDefaults then [bundled] else [])).Leaves .null
        (found path (.mapping lower)) := by
  cases loadDefaults with
  | false => exact ⟨[], rfl, fun path hpath => leaves_lastWord_nil hpath⟩
  | true => exact ⟨bundled, rfl, fun path _ => leaves_lastWord_singleton path bundled⟩

/-- **What is found in the configuration of a folder.**  If every file that is there is read as a
mapping, then the files are laid over the defaults in the order of their places, the sources are
listed in that order, and at every key is found what the last layer says that is not silent. -/
theorem lookup_ofFolder (base : String) (f : Folder) (profiles : List String) (loadDefaults : Bool)
    (h : ∀ place ∈ present f (places profiles), (mapping? f place.1).isSome) :
    ∃ c, ofFolder base f profiles loadDefaults = .ok c ∧
      c.sources = (defaults loadDefaults).sources ++
        (present f (places profiles)).map (source base) ∧
      ∀ key, (lastWord (names key) (layers f profiles loadDefaults)).Leaves .null (c.lookup key) := by
  have hproper : ∀ es ∈ mappings f (places profiles), (Value.mapping es).Proper := by
    intro es hes
    obtain ⟨place, _, hplace⟩ := List.mem_filterMap.mp hes
    exact proper_of_mapping? hplace
  obtain ⟨lower, hlower, hfound⟩ := exists_defaults loadDefaults
  have hrun := ofFolder_eq base f profiles loadDefaults
  rw [hlower, layPlaces_of_mappings h] at hrun
  refine ⟨_, hrun, rfl, fun key => ?_⟩
  exact leaves_lastWord hproper (hfound (names key) (names_ne_nil key))

end Files

/-- A folder with a YAML file and a TOML file, and a YAML file of the profile `test`. -/
def sample : Folder :=
  [ (["config", "odata-client.yaml"], some "a:\n  b: 1\n  c: x\nd: 5\n".toUTF8.toList)
  , (["odata-client.toml"], some "a.b = 2\n".toUTF8.toList)
  , (["odata-client-test.yaml"], some "d: \x7b\x7d\n".toUTF8.toList) ]

/-- The TOML file of the sample has the last word about `a.b`. -/
theorem lastWord_sample :
    lastWord (names "a.b") (layers sample ["test"] true) = .value (.int 2) := by
  have hsees : (match lastWord (names "a.b") (layers sample ["test"] true) with
      | .value (.int n) => n == 2
      | _ => false) = true := by decide +kernel
  split at hsees
  · rename_i n hn
    rw [hn, eq_of_beq hsees]
  · cases hsees

theorem lookup_ofFolder_sample :
    (∀ place ∈ present sample (places ["test"]), (mapping? sample place.1).isSome) ∧
      ∃ c, ofFolder "./etc//" sample ["test"] true = .ok c ∧
        c.sources =
          [ "odata-client-defaults.yaml (bundled defaults)", "etc/config/odata-client.yaml"
          , "etc/odata-client.toml", "etc/odata-client-test.yaml (profile: test)" ] ∧
        c.lookup "a.b" = .int 2 := by
  have hread : ∀ place ∈ present sample (places ["test"]), (mapping? sample place.1).isSome := by
    decide +kernel
  obtain ⟨c, hc, hsources, hfound⟩ := lookup_ofFolder "./etc//" sample ["test"] true hread
  refine ⟨hread, c, hc, hsources.trans (by decide +kernel), ?_⟩
  have hword := hfound "a.b"
  rw [lastWord_sample] at hword
  exact hword

end ServiceClient.Config

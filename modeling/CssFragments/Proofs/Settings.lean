import CssFragments.Settings.Read
import Mathlib.Logic.Function.Defs

/-! # How settings are wrapped up

A client can send its settings as an object with named members, in the section of a larger object,
or as a list in a fixed order, and it can leave out what is standard. The two forms read the single
settings in different orders, so that of several errors they may report different ones; but nothing
is accepted in one form that is not accepted in the other, and it means the same.

* `Settings.readMembers_eq_ok_iff`, `Settings.readItems_eq_ok_iff`: settings are accepted if each of
  them is, whatever the order of reading.
* `Settings.ofJson_of_section`: a section can stand by itself.
* `Settings.ofJson_filter`: only the members that are settings count.
* `Settings.encode`: settings as an object, some of whose members are left out.
* `Settings.ofJson_encode`: that object is read back.
* `Settings.ofJson_packaging`: all of this in one statement. -/

namespace CssFragments

namespace Json

/-! ## Members -/

/-- If members are left out by their names, those with the other names are still found. -/
theorem lookup_filter (p : String → Bool) (name : String) (members : List (String × Json)) :
    lookup name (members.filter fun m => p m.1) =
      if p name then lookup name members else none := by
  induction members with
  | nil => simp [lookup]
  | cons m members ih =>
    obtain ⟨k, v⟩ := m
    by_cases hk : k = name
    · subst hk
      by_cases hp : p k <;> simp [lookup, hp, ih]
    · by_cases hp : p k <;> simp [lookup, hk, hp, ih]

end Json

namespace Settings

/-! ## Reading one setting after another -/

/-- **Settings by name** are accepted if each of them is. -/
theorem readMembers_eq_ok_iff {members : List (String × Json)} {s : Settings} :
    readMembers members = .ok s ↔
      readOr standard.validate readBool (Json.lookup "validate" members) = .ok s.validate ∧
      readOr standard.unknownProperties readLint (Json.lookup "lint" members) =
        .ok s.unknownProperties ∧
      readOr standard.idleSeconds readSeconds (Json.lookup "workerIdleTimeoutSecs" members) =
        .ok s.idleSeconds := by
  obtain ⟨validate, level, seconds⟩ := s
  rw [readMembers]
  -- the checks are read first, and what is wrong with them hides all other errors
  cases readOr standard.unknownProperties readLint (Json.lookup "lint" members) with
  | error e => simp [bind, Except.bind]
  | ok level' =>
    cases readOr standard.validate readBool (Json.lookup "validate" members) with
    | error e => simp [bind, Except.bind]
    | ok validate' =>
      cases readOr standard.idleSeconds readSeconds
          (Json.lookup "workerIdleTimeoutSecs" members) <;>
        simp [bind, Except.bind, pure, Except.pure]

/-- **Settings in their fixed order** are accepted if each of them is and there are no others. -/
theorem readItems_eq_ok_iff {items : List Json} {s : Settings} :
    readItems items = .ok s ↔
      (readOr standard.validate readBool items[0]? = .ok s.validate ∧
      readOr standard.unknownProperties readLint items[1]? = .ok s.unknownProperties ∧
      readOr standard.idleSeconds readSeconds items[2]? = .ok s.idleSeconds) ∧
      items.length ≤ 3 := by
  obtain ⟨validate, level, seconds⟩ := s
  rw [readItems]
  cases readOr standard.validate readBool items[0]? with
  | error e => simp [bind, Except.bind]
  | ok validate' =>
    cases readOr standard.unknownProperties readLint items[1]? with
    | error e => simp [bind, Except.bind]
    | ok level' =>
      cases readOr standard.idleSeconds readSeconds items[2]? with
      | error e => simp [bind, Except.bind]
      | ok seconds' =>
        -- their number is looked at last
        by_cases hlength : items.length ≤ 3 <;>
          simp [checkLength, hlength, bind, Except.bind, pure, Except.pure]

/-! ## The wrapping -/

theorem ofJson_object {members : List (String × Json)}
    (h : Json.lookup sectionName members = none) :
    ofJson (.object members) = readMembers members := by
  simp [ofJson, Json.get?, h, readSection]

theorem ofJson_array (items : List Json) : ofJson (.array items) = readItems items := rfl

/-- **A section can stand by itself,** and what is beside it does not count. -/
theorem ofJson_of_section {members : List (String × Json)} {v : Json}
    (hv : Json.lookup sectionName members = some v) (hnested : v.get? sectionName = none) :
    ofJson (.object members) = ofJson v := by
  have hget : (Json.object members).get? sectionName = some v := hv
  rw [ofJson, ofJson, hget, hnested, Option.getD_some, Option.getD_none]

/-- The names of the settings. -/
def memberNames : List String := ["validate", "lint", "workerIdleTimeoutSecs"]

/-- **Other members do not count,** if there is no section among them. -/
theorem ofJson_filter {members : List (String × Json)}
    (h : Json.lookup sectionName members = none) :
    ofJson (.object (members.filter fun m => m.1 ∈ memberNames)) = ofJson (.object members) := by
  have hfind (name : String) :
      Json.lookup name (members.filter fun m => m.1 ∈ memberNames) =
        if name ∈ memberNames then Json.lookup name members else none := by
    rw [Json.lookup_filter (fun k => k ∈ memberNames)]
    simp only [decide_eq_true_eq]
  have hsection : Json.lookup sectionName (members.filter fun m => m.1 ∈ memberNames) = none := by
    rw [hfind, h, ite_self]
  rw [ofJson_object hsection, ofJson_object h, readMembers, readMembers, hfind, hfind, hfind,
    if_pos (by decide), if_pos (by decide), if_pos (by decide)]

/-! ## Settings as an object -/

/-- What has a name in settings. -/
inductive Field where
  /-- Whether diagnostics are published. -/
  | validate
  /-- The settings of the checks. -/
  | lint
  /-- How properties that are not known are reported, among the settings of the checks. -/
  | unknownProperties
  /-- After how many seconds without a question the analysis service is given up. -/
  | idleSeconds
deriving DecidableEq

/-- The name of a field. -/
def Field.name : Field → String
  | .validate => "validate"
  | .lint => "lint"
  | .unknownProperties => "unknownProperties"
  | .idleSeconds => "workerIdleTimeoutSecs"

/-- The field has its standard value. -/
def IsStandard (s : Settings) : Field → Prop
  | .validate => s.validate = standard.validate
  | .lint => s.unknownProperties = standard.unknownProperties
  | .unknownProperties => s.unknownProperties = standard.unknownProperties
  | .idleSeconds => s.idleSeconds = standard.idleSeconds

/-- The members of an object for the given fields, less those that are left out. -/
def write (omitted : Field → Bool) (fields : List (Field × Json)) : List (String × Json) :=
  (fields.filter fun f => ! omitted f.1).map fun f => (f.1.name, f.2)

/-- Settings as an object whose members have their names; some are left out. -/
def encode (omitted : Field → Bool) (s : Settings) : Json :=
  .object (write omitted [
    (.validate, .bool s.validate),
    (.lint, .object (write omitted [(.unknownProperties, .string s.unknownProperties.name)])),
    (.idleSeconds, .ofNat s.idleSeconds)])

section

variable {omitted : Field → Bool}

theorem write_cons (f : Field) (v : Json) (fields : List (Field × Json)) :
    write omitted ((f, v) :: fields) =
      if omitted f then write omitted fields else (f.name, v) :: write omitted fields := by
  cases ho : omitted f <;> simp [write, ho]

/-- No name is found that is not the name of a field. -/
theorem lookup_write_eq_none {fields : List (Field × Json)} {name : String}
    (h : ∀ f ∈ fields, f.1.name ≠ name) : Json.lookup name (write omitted fields) = none := by
  induction fields with
  | nil => rfl
  | cons m fields ih =>
    obtain ⟨f, v⟩ := m
    obtain ⟨hf, hfields⟩ := List.forall_mem_cons.mp h
    rw [write_cons]
    split
    · exact ih hfields
    · rw [Json.lookup, if_neg hf, ih hfields]

theorem Field.name_injective : Function.Injective Field.name := by
  intro f g h
  cases f <;> cases g <;> simp_all [Field.name]

/-- **A field is found under its name,** unless it is left out. -/
theorem lookup_write {fields : List (Field × Json)} (hfields : (fields.map Prod.fst).Nodup)
    {f : Field} {v : Json} (h : (f, v) ∈ fields) :
    Json.lookup f.name (write omitted fields) = if omitted f then none else some v := by
  induction fields with
  | nil => cases h
  | cons m fields ih =>
    obtain ⟨g, w⟩ := m
    obtain ⟨hg, hrest⟩ := List.nodup_cons.mp hfields
    rw [write_cons]
    rcases List.mem_cons.mp h with heq | hmem
    · obtain ⟨rfl, rfl⟩ := Prod.mk.inj heq
      split
      · -- no other field has its name
        refine lookup_write_eq_none fun e he hname => hg ?_
        exact List.mem_map.mpr ⟨e, he, Field.name_injective hname⟩
      · simp [Json.lookup]
    · have hne : g.name ≠ f.name := by
        intro hname
        exact hg (List.mem_map.mpr ⟨_, hmem, (Field.name_injective hname).symm⟩)
      split
      · exact ih hrest hmem
      · rw [Json.lookup, if_neg hne, ih hrest hmem]

/-- A field that is left out is read as its standard value, and one that is not as what is given. -/
theorem readOr_lookup_write {α : Type} {standard a : α} {read : Json → Except Error α}
    {fields : List (Field × Json)} (hfields : (fields.map Prod.fst).Nodup) {f : Field} {v : Json}
    (h : (f, v) ∈ fields) (hread : read v = .ok a) (hstandard : omitted f → a = standard) :
    readOr standard read (Json.lookup f.name (write omitted fields)) = .ok a := by
  rw [lookup_write hfields h]
  split
  · next ho => rw [readOr, hstandard ho]
  · exact hread

/-- **The object is read back,** if what was left out was standard. -/
theorem ofJson_encode {s : Settings} (h : ∀ f, omitted f → s.IsStandard f) :
    ofJson (s.encode omitted) = .ok s := by
  have hlevel : readLevel (.string s.unknownProperties.name) = .ok s.unknownProperties := by
    simp [readLevel, readLevelName]
  have hlint : readLint (.object (write omitted
      [(.unknownProperties, .string s.unknownProperties.name)])) = .ok s.unknownProperties :=
    readOr_lookup_write (f := .unknownProperties) (by simp) (by simp) hlevel (h .unknownProperties)
  rw [encode, ofJson_object (lookup_write_eq_none (by simp [Field.name, sectionName])),
    readMembers_eq_ok_iff]
  have hvalidate : readBool (.bool s.validate) = .ok s.validate := rfl
  have hseconds : readSeconds (.ofNat s.idleSeconds) = .ok s.idleSeconds := rfl
  refine ⟨?_, ?_, ?_⟩
  · exact readOr_lookup_write (f := .validate) (by simp) (by simp) hvalidate (h .validate)
  · exact readOr_lookup_write (f := .lint) (by simp) (by simp) hlint (h .lint)
  · exact readOr_lookup_write (f := .idleSeconds) (by simp) (by simp) hseconds (h .idleSeconds)

end

/-! ## All of it -/

/-- **The list and the object.** Three values are accepted as a list if and only if they are
accepted as the members of an object, and as the same settings. -/
theorem ofJson_array_eq_ok_iff {a b c : Json} {s : Settings} :
    ofJson (.array [a, b, c]) = .ok s ↔
      ofJson (.object [("validate", a), ("lint", b), ("workerIdleTimeoutSecs", c)]) = .ok s := by
  rw [ofJson_array, ofJson_object (by simp [Json.lookup, sectionName]), readItems_eq_ok_iff,
    readMembers_eq_ok_iff]
  simp [Json.lookup]

/-- **How settings are wrapped up does not matter.** A section with anything beside it is read like
the section alone, and without a section all members but the settings can be dropped; the errors are
the same too. Settings are read back from the object that holds them, also if some or all that are
standard are left out. Three values are accepted as a list if and only if they are accepted as the
members of an object, and as the same settings. -/
theorem ofJson_packaging :
    (∀ members v, Json.lookup sectionName members = some v → v.get? sectionName = none →
      ofJson (.object members) = ofJson v) ∧
    (∀ members, Json.lookup sectionName members = none →
      ofJson (.object (members.filter fun m => m.1 ∈ memberNames)) = ofJson (.object members)) ∧
    (∀ (s : Settings) (omitted : Field → Bool), (∀ f, omitted f → s.IsStandard f) →
      ofJson (s.encode omitted) = .ok s) ∧
    (∀ (a b c : Json) (s : Settings), ofJson (.array [a, b, c]) = .ok s ↔
      ofJson (.object [("validate", a), ("lint", b), ("workerIdleTimeoutSecs", c)]) = .ok s) :=
  ⟨fun _ _ hv hnested => ofJson_of_section hv hnested, fun _ h => ofJson_filter h,
    fun _ _ h => ofJson_encode h, fun _ _ _ _ => ofJson_array_eq_ok_iff⟩

/-- A section with a wrong value, an unknown member beside a wrong value, and settings with the
largest number of seconds and without the standard ones. -/
theorem ofJson_packaging_sample :
    let faulty : Json := .object [("lint", .bool true)]
    let unknown : List (String × Json) := [("color", .null), ("validate", .null)]
    let s : Settings := ⟨false, .warning, 18446744073709551615⟩
    let omitted : Field → Bool := fun f => f = .lint || f = .unknownProperties
    (Json.lookup sectionName [("editor", .null), (sectionName, faulty)] = some faulty ∧
      faulty.get? sectionName = none ∧
      ofJson (.object [("editor", .null), (sectionName, faulty)]) = ofJson faulty) ∧
    (Json.lookup sectionName unknown = none ∧
      ofJson (.object [("validate", .null)]) = ofJson (.object unknown)) ∧
    (∀ f, omitted f → s.IsStandard f) ∧
    ofJson (.object [("validate", .bool false),
      ("workerIdleTimeoutSecs", .integer 18446744073709551615)]) = .ok s := by
  intro faulty unknown s omitted
  obtain ⟨hsection, hfilter, hencode, -⟩ := ofJson_packaging
  have hstandard : ∀ f, omitted f → s.IsStandard f := by
    intro f hf
    cases f with
    | validate => exact absurd hf (by decide)
    | lint => rfl
    | unknownProperties => rfl
    | idleSeconds => exact absurd hf (by decide)
  exact ⟨⟨rfl, rfl, hsection _ _ rfl rfl⟩, ⟨rfl, hfilter unknown rfl⟩, hstandard,
    hencode s omitted hstandard⟩

end Settings

end CssFragments

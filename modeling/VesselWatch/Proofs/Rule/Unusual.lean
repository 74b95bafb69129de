/-
  Proofs/Rule/Unusual.lean --- what an unusual position depends on.

  A vessel's course and type are sent under several names.  The first name that the event has a
  value for counts, whether or not that value can be read, and a `null` is no value
  (`takes_iff`).  With the course and the type so taken and with the position, the model at hand
  says whether the position is unusual; where it says nothing, the position is not.

  So events at one position are judged alike if the values that count are the same
  (`isUnusual_congr`), whatever else is different about them.
-/
import VesselWatch.Proofs.Decimal.Numeral
import VesselWatch.Proofs.Track.Verdict
import VesselWatch.Rule.Evaluate
import VesselWatch.Track.Library

set_option autoImplicit false

namespace VesselWatch

open Track

/-! ## The first attribute that is present -/

namespace VesselEvent

variable {e e' : VesselEvent} {names : List String} {name text : String} {j : Json}

/-- The event has no attribute of that name but `null`. -/
def Lacks (e : VesselEvent) (name : String) : Prop :=
  ∀ j, e.attributes.lookup name = some j → j = .null

/-- The first of several names that the event does not lack, with its value. -/
def FirstPresent (e : VesselEvent) (names : List String) (name : String) (j : Json) : Prop :=
  ∃ before after, names = before ++ name :: after ∧ (∀ earlier ∈ before, e.Lacks earlier) ∧
    e.attributes.lookup name = some j ∧ j ≠ .null

theorem attributeText_eq_none_iff : e.attributeText name = none ↔ e.Lacks name := by
  rw [attributeText, Option.bind_eq_none_iff]
  exact forall_congr' fun j => imp_congr_right fun _ => valueText_eq_none_iff

theorem firstText_eq_none_iff : e.firstText names = none ↔ ∀ name ∈ names, e.Lacks name := by
  simp only [firstText, List.findSome?_eq_none_iff, attributeText_eq_none_iff]

theorem firstText_eq_some_iff : e.firstText names = some text ↔
    ∃ name j, e.FirstPresent names name j ∧ valueText j = some text := by
  simp only [firstText, List.findSome?_eq_some_iff, attributeText_eq_none_iff, FirstPresent]
  constructor
  · rintro ⟨before, name, after, hnames, htext, hbefore⟩
    obtain ⟨j, hlookup, htext⟩ := Option.bind_eq_some_iff.mp htext
    have hvalue : j ≠ .null := fun h => by
      rw [valueText_eq_none_iff.mpr h] at htext
      cases htext
    exact ⟨name, j, ⟨before, after, hnames, hbefore, hlookup, hvalue⟩, htext⟩
  · rintro ⟨name, j, ⟨before, after, hnames, hbefore, hlookup, -⟩, htext⟩
    exact ⟨before, name, after, hnames, Option.bind_eq_some_iff.mpr ⟨j, hlookup, htext⟩, hbefore⟩

/-- What an event gives under several names: what the text of the first value that is present reads
as, and a default if it cannot be read or none is present. -/
inductive Takes {α : Type} (reads : String → α → Prop) (default : α) (e : VesselEvent)
    (names : List String) : α → Prop
  | absent : (∀ name ∈ names, e.Lacks name) → Takes reads default e names default
  | readable {name text : String} {j : Json} {a : α} : e.FirstPresent names name j →
    valueText j = some text → reads text a → Takes reads default e names a
  | unreadable {name text : String} {j : Json} : e.FirstPresent names name j →
    valueText j = some text → (∀ a, ¬ reads text a) → Takes reads default e names default

theorem takes_iff {α : Type} {reads : String → α → Prop} {read : String → Option α}
    (reader : ∀ text a, read text = some a ↔ reads text a) {default a : α} :
    Takes reads default e names a ↔ ((e.firstText names).bind read).getD default = a := by
  constructor
  · rintro (absent | ⟨first, htext, hreads⟩ | ⟨first, htext, hnone⟩)
    · rw [firstText_eq_none_iff.mpr absent]
      rfl
    · rw [firstText_eq_some_iff.mpr ⟨_, _, first, htext⟩, Option.bind_some,
        (reader _ _).mpr hreads]
      rfl
    · have hunread : read _ = none :=
        Option.eq_none_iff_forall_ne_some.mpr fun a h => hnone a ((reader _ _).mp h)
      rw [firstText_eq_some_iff.mpr ⟨_, _, first, htext⟩, Option.bind_some, hunread]
      rfl
  · rintro rfl
    cases htext : e.firstText names with
    | none => exact .absent (firstText_eq_none_iff.mp htext)
    | some text =>
      obtain ⟨name, j, first, hvalue⟩ := firstText_eq_some_iff.mp htext
      rw [Option.bind_some]
      cases hread : read text with
      | none =>
        refine .unreadable first hvalue fun a ha => ?_
        rw [(reader text a).mpr ha] at hread
        cases hread
      | some a => exact .readable first hvalue ((reader text a).mp hread)

/-! ## Course and type -/

/-- The text is a number, with blanks around it or without. -/
def IsNumber (text : String) (x : Float) : Prop :=
  ∃ number, Text.Padded number text.toList ∧ Text.Solid number ∧
    Decimal.readFloat number = some x

/-- The text is an integer of 32 bits, with blanks around it or without. -/
def IsInt32 (text : String) (n : Int) : Prop :=
  ∃ number, Text.Padded number text.toList ∧ Decimal.Signed number n ∧ -2 ^ 31 ≤ n ∧ n < 2 ^ 31

theorem number?_eq_some_iff (text : String) (x : Float) :
    number? text = some x ↔ IsNumber text x := by
  have hread : number? text = some x ↔ Text.Solid (Text.trim text.toList) ∧
      Decimal.readFloat (Text.trim text.toList) = some x :=
    (and_iff_right (Text.solid_trim _)).symm
  rw [hread]
  exact Text.of_trim_iff (P := fun number => Text.Solid number ∧ Decimal.readFloat number = some x)
    (fun _ => And.left) _

theorem readInt32_trim_eq_some_iff (text : String) (n : Int) :
    Decimal.readInt32 (Text.trim text.toList) = some n ↔ IsInt32 text n := by
  rw [Decimal.readInt32_eq_some_iff]
  have hrange : Decimal.leastInt32 ≤ n ∧ n ≤ Decimal.greatestInt32 ↔ -2 ^ 31 ≤ n ∧ n < 2 ^ 31 := by
    simp only [Decimal.leastInt32, Decimal.greatestInt32]
    omega
  rw [hrange]
  exact Text.of_trim_iff (P := fun number => Decimal.Signed number n ∧ -2 ^ 31 ≤ n ∧ n < 2 ^ 31)
    (fun _ h => h.1.solid) _

theorem takes_course_iff {course : Float} :
    e.Takes IsNumber 0 courseAttributes course ↔ e.attributeCourse = course :=
  takes_iff number?_eq_some_iff

theorem takes_type_iff {code : Int} :
    e.Takes IsInt32 0 typeAttributes code ↔ e.attributeType = code :=
  takes_iff readInt32_trim_eq_some_iff

/-! ## Events that show the same -/

/-- Under some names both events have nothing, or the first value that is present has the same name
and is the same in both. -/
inductive SameFirst (e e' : VesselEvent) (names : List String) : Prop
  | absent : (∀ name ∈ names, e.Lacks name) → (∀ name ∈ names, e'.Lacks name) →
    SameFirst e e' names
  | present {name : String} {j : Json} : e.FirstPresent names name j →
    e'.FirstPresent names name j → SameFirst e e' names

theorem SameFirst.firstText_eq (same : SameFirst e e' names) :
    e.firstText names = e'.firstText names := by
  cases same with
  | absent lacks lacks' =>
    rw [firstText_eq_none_iff.mpr lacks, firstText_eq_none_iff.mpr lacks']
  | @present name j first first' =>
    have ⟨_, _, _, _, _, hvalue⟩ := first
    obtain ⟨text, htext⟩ := exists_valueText hvalue
    rw [firstText_eq_some_iff.mpr ⟨name, j, first, htext⟩,
      firstText_eq_some_iff.mpr ⟨name, j, first', htext⟩]

theorem isUnusual_congr (location : e.location = e'.location)
    (course : SameFirst e e' courseAttributes) (type : SameFirst e e' typeAttributes)
    (m : Option Model) : e.isUnusual m = e'.isUnusual m := by
  unfold isUnusual attributeCourse attributeType
  rw [location, course.firstText_eq, type.firstText_eq]

theorem isUnusual_some_iff (m : Model) : e.isUnusual (some m) = true ↔
    ∃ v, m.checkPosition e.location e.attributeCourse e.attributeType = .ok v ∧
      v.isAnomaly = true := by
  dsimp only [isUnusual]
  cases m.checkPosition e.location e.attributeCourse e.attributeType <;> simp

end VesselEvent

/-! ## The model at hand -/

namespace Track

/-- The model that there is for a folder, or the default one where none is named: the one that
stands on its shelf, or the one that can be loaded where the shelf is still empty. -/
inductive Library.Offers (files : Files) (lib : Library) : Option Path → Model → Prop
  | default {m : Model} : lib.default = some m → Offers files lib none m
  | shelved {folder : Path} {m : Model} : lib.shelves.lookup folder = some (some m) →
    Offers files lib (some folder) m
  | loaded {folder : Path} {m : Model} : lib.shelves.lookup folder = none →
    Model.load files folder = .ok m → Offers files lib (some folder) m

theorem Library.loaded_eq_some_iff {files : Files} {folder : Path} {m : Model} :
    loaded files folder = some m ↔ Model.load files folder = .ok m := by
  unfold loaded
  cases Model.load files folder <;> simp [Except.toOption]

theorem Library.find_eq_some_iff {files : Files} {lib : Library} {asked : Option Path} {m : Model} :
    lib.find (loaded files) asked = some m ↔ lib.Offers files asked m := by
  cases asked with
  | none => exact ⟨.default, fun | .default h => h⟩
  | some folder =>
    cases hshelf : lib.shelves.lookup folder with
    | some shelf =>
      simp only [find, hshelf, Option.getD_some]
      constructor
      · rintro rfl
        exact .shelved hshelf
      · rintro (_ | h | ⟨h, -⟩)
        · exact Option.some.inj (hshelf.symm.trans h)
        · exact absurd (hshelf.symm.trans h) (Option.some_ne_none shelf)
    | none =>
      simp only [find, hshelf, Option.getD_none, loaded_eq_some_iff]
      constructor
      · exact .loaded hshelf
      · rintro (_ | h | ⟨-, hload⟩)
        · exact absurd (h.symm.trans hshelf) (Option.some_ne_none _)
        · exact hload

theorem Model.loaded_and_valid_of_checkPosition {m : Model} {p : GeoPoint} {course : Float}
    {code : Int} {v : Verdict} (judged : m.checkPosition p course code = .ok v) :
    VesselClass.ofTypeCode code ∈ m.classes ∧ p.isValid = true := by
  rw [Model.checkPosition, Grid.checkPosition_eq] at judged
  cases htable : m.tableFor code with
  | error e =>
    rw [htable] at judged
    cases judged
  | ok t =>
    rw [htable] at judged
    refine ⟨mem_classes_of_tableFor htable, ?_⟩
    cases hvalid : p.isValid with
    | true => rfl
    | false => simp [Except.bind, hvalid] at judged

end Track

/-! ## All of it -/

/-- The position of an event is unusual if there is a model to judge by, which has a table for the
class of the vessel, the position is on the globe, and the model finds an anomaly there for the
course and the type that the event gives under their names; otherwise it is not, and there is no
error.  Events at the same position that show the same course and the same type first are judged
alike. -/
theorem Condition.positionAnomaly_by_first_present (files : Files) (lib : Library)
    (folder : Option Path) (e : VesselEvent) (s : RuleState) :
    let judge := Condition.evaluate (lib.find (Library.loaded files)) (.positionAnomaly folder)
    (∃ course code unusual,
      e.Takes VesselEvent.IsNumber 0 ["COG", "Cog", "course", "Course"] course ∧
      e.Takes VesselEvent.IsInt32 0 ["VesselType", "vtype", "VesselTypeCode"] code ∧
      (judge e s).verdict = .ok unusual ∧
      (unusual = true ↔ ∃ m, lib.Offers files folder m ∧ VesselClass.ofTypeCode code ∈ m.classes ∧
        e.location.isValid = true ∧
        ∃ v, m.checkPosition e.location course code = .ok v ∧ v.isAnomaly = true)) ∧
    ∀ e' s', e'.location = e.location →
      e'.SameFirst e ["COG", "Cog", "course", "Course"] →
      e'.SameFirst e ["VesselType", "vtype", "VesselTypeCode"] →
      (judge e' s').verdict = (judge e s).verdict := by
  intro judge
  refine ⟨⟨e.attributeCourse, e.attributeType, e.isUnusual (lib.find (Library.loaded files) folder),
    VesselEvent.takes_course_iff.mpr rfl, VesselEvent.takes_type_iff.mpr rfl, rfl, ?_⟩, ?_⟩
  · simp only [← Library.find_eq_some_iff]
    cases lib.find (Library.loaded files) folder with
    | none => simp [VesselEvent.isUnusual]
    | some m =>
      rw [VesselEvent.isUnusual_some_iff]
      constructor
      · rintro ⟨v, judged, hv⟩
        obtain ⟨hloaded, hvalid⟩ := Model.loaded_and_valid_of_checkPosition judged
        exact ⟨m, rfl, hloaded, hvalid, v, judged, hv⟩
      · rintro ⟨m', hm, -, -, v, judged, hv⟩
        cases hm
        exact ⟨v, judged, hv⟩
  · intro e' s' location course type
    exact congrArg Except.ok (VesselEvent.isUnusual_congr location course type _)

/-- A cargo ship that sends its course as a word and, under a later name, as a number. -/
def wordyShip : VesselEvent :=
  { (default : VesselEvent) with
    location := Grid.west
    attributes := [("COG", .text "north"), ("course", .number (.int 90)), ("VesselType", .null),
      ("vtype", .text " +70 ")] }

/-- The same ship with another course under a later name, and with another type. -/
def otherwiseWordyShip : VesselEvent :=
  { wordyShip with
    course := 180
    attributes := [("vtype", .text " +70 "), ("Course", .number (.int 180)),
      ("VesselTypeCode", .number (.int 30)), ("COG", .text "north")] }

/-- Where no state was ever observed both ships are unusual: the course is taken to be zero, since
the first one that is present is a word, and the type is that of a cargo ship. -/
theorem Condition.positionAnomaly_by_first_present_word :
    let lib := Library.empty.withDefault (Model.empty.insert (VesselClass.ofTypeCode 70) [])
    let available := lib.find (Library.loaded fun _ => none)
    let judge := Condition.evaluate available (.positionAnomaly none)
    otherwiseWordyShip.location = wordyShip.location ∧
    otherwiseWordyShip.SameFirst wordyShip ["COG", "Cog", "course", "Course"] ∧
    otherwiseWordyShip.SameFirst wordyShip ["VesselType", "vtype", "VesselTypeCode"] ∧
    (judge wordyShip default).verdict = .ok true ∧
    (judge otherwiseWordyShip default).verdict = .ok true := by
  intro lib available judge
  obtain ⟨⟨course, code, unusual, hcourse, hcode, hverdict, hunusual⟩, hsame⟩ :=
    Condition.positionAnomaly_by_first_present (fun _ => none) lib none wordyShip default
  have course_first :
      otherwiseWordyShip.SameFirst wordyShip ["COG", "Cog", "course", "Course"] :=
    .present ⟨[], _, rfl, List.forall_mem_nil _, rfl, Json.noConfusion⟩
      ⟨[], _, rfl, List.forall_mem_nil _, rfl, Json.noConfusion⟩
  have type_first :
      otherwiseWordyShip.SameFirst wordyShip ["VesselType", "vtype", "VesselTypeCode"] := by
    have hlacks : wordyShip.Lacks "VesselType" := fun _ h => (Option.some.inj h).symm
    have hlacks' : otherwiseWordyShip.Lacks "VesselType" := fun _ h => by cases h
    exact .present
      ⟨["VesselType"], _, rfl, List.forall_mem_singleton.mpr hlacks', rfl, Json.noConfusion⟩
      ⟨["VesselType"], _, rfl, List.forall_mem_singleton.mpr hlacks, rfl, Json.noConfusion⟩
  obtain rfl : wordyShip.attributeType = code := VesselEvent.takes_type_iff.mp hcode
  have htype : wordyShip.attributeType = 70 := by decide
  have hvalid : wordyShip.location.isValid = true := by decide
  have hyes : unusual = true := by
    refine hunusual.mpr ⟨_, .default rfl, ?_, hvalid, ⟨true, 0, .stateNeverObserved⟩, ?_, rfl⟩
    · rw [htype]
      exact Model.mem_classes_of_tableFor (Model.tableFor_insert _ _ _)
    · rw [htype, Model.checkPosition, Grid.checkPosition_eq, Model.tableFor_insert]
      simp [Except.bind, hvalid, Verdict.ofPosition]
  rw [hyes] at hverdict
  exact ⟨rfl, course_first, type_first, hverdict,
    (hsame otherwiseWordyShip default rfl course_first type_first).trans hverdict⟩

end VesselWatch

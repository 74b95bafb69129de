/-
  Proofs/Track/Requests.lean --- what a library answers over time.

  Models are registered first; then folders are asked for, in any order and any spelling, while
  the files change.  A request brings along what loading a folder gives at its time.  Nothing is
  assumed of that, so two loads of one folder may give different models, and an answer can be
  traced to the registration or the one load that it comes from (`answers_eq`).

  The invariant is that shelves are written once: what stands on one stays there, in its place
  (`shelves_isPrefix`), and a request adds a shelf for the folder that it names and no other
  (`shelf_after`).
-/
import VesselWatch.Proofs.Track.Library

set_option autoImplicit false

namespace VesselWatch.Track

/-! ## Registrations and requests -/

/-- A model that is registered before any request. -/
inductive Registration where
  /-- for requests that name no folder -/
  | default (m : Model)
  | folder (p : Path) (m : Model)

namespace Registration

/-- The model that is registered for a folder. -/
def modelFor? (p : Path) : Registration → Option Model
  | .folder q m => if p == q then some m else none
  | .default _ => none

/-- The model that is registered for requests that name no folder. -/
def default? : Registration → Option Model
  | .default m => some m
  | .folder _ _ => none

end Registration

/-- A request for a model. -/
structure Request where
  /-- what loading a folder gives at the time, from the files as they are then (`loaded`) -/
  source : Path → Option Model
  /-- the folder that is named, if one is -/
  folder : Option Path

namespace Request

/-- The request is for the default model, or for the model of the folder in whatever spelling. -/
def asksFor (q : Request) : Option Path → Bool
  | none => q.folder.isNone
  | some p => q.folder.any (p == ·)

/-- What loading the folder gives at the time of the request, if the request names it. -/
def load? (p : Path) (q : Request) : Option (Option Model) :=
  match q.folder with
  | some spelled => if p == spelled then some (q.source spelled) else none
  | none => none

end Request

namespace Library

/-- The library after a registration.  A default model takes the place of an earlier one. -/
def enter (lib : Library) : Registration → Library
  | .default m => lib.withDefault m
  | .folder p m => lib.register p m

/-- The library that registrations give. -/
def stocked (registrations : List Registration) : Library := registrations.foldl enter empty

/-- The library after a request. -/
def serve (lib : Library) (q : Request) : Library := lib.recordAll q.source q.folder.toList

/-- The library after some requests. -/
def after (requests : List Request) (lib : Library) : Library := requests.foldl serve lib

/-- The answers to requests that are made one after another. -/
def answers : List Request → Library → List (Option Model)
  | [], _ => []
  | q :: rest, lib => lib.find q.source q.folder :: answers rest (lib.serve q)

/-- What all requests for a folder get when a library is asked these requests: what stands on its
shelf, or what loading it gave to the first of them.  Those that name no folder get the default
model. -/
def gives (lib : Library) (requests : List Request) : Option Path → Option Model
  | none => lib.default
  | some p => ((lib.shelf p).or (requests.findSome? (·.load? p))).join

/-! ## One step -/

variable {lib : Library}

theorem shelf_serve (q : Request) (p : Path) :
    (lib.serve q).shelf p = (lib.shelf p).or (q.load? p) := by
  unfold serve Request.load? recordAll
  cases q.folder with
  | none => simp
  | some spelled => exact shelf_shelve spelled p _ lib

theorem default_serve (q : Request) : (lib.serve q).default = lib.default :=
  default_recordAll _ _

theorem shelves_isPrefix_serve (q : Request) : lib.shelves <+: (lib.serve q).shelves := by
  unfold serve recordAll
  cases q.folder with
  | none => exact List.prefix_rfl
  | some spelled =>
    simp only [Option.toList_some, List.foldl_cons, List.foldl_nil]
    unfold shelve
    split
    · exact List.prefix_rfl
    · exact List.prefix_append _ _

/-! ## Many steps -/

/-- What stood on no shelf comes from the first request that names the folder. -/
theorem shelf_after (requests : List Request) (lib : Library) (p : Path) :
    (lib.after requests).shelf p = (lib.shelf p).or (requests.findSome? (·.load? p)) := by
  unfold after
  induction requests generalizing lib with
  | nil => simp
  | cons q rest ih =>
    rw [List.foldl_cons, ih, shelf_serve, Option.or_assoc, List.findSome?_cons]
    cases q.load? p <;> rfl

theorem default_after (requests : List Request) (lib : Library) :
    (lib.after requests).default = lib.default := by
  unfold after
  induction requests generalizing lib with
  | nil => rfl
  | cons q rest ih => rw [List.foldl_cons, ih, default_serve]

/-- What stands on a shelf stays there, and the shelf stays in its place. -/
theorem shelves_isPrefix (requests : List Request) (lib : Library) :
    lib.shelves <+: (lib.after requests).shelves := by
  unfold after
  induction requests generalizing lib with
  | nil => exact List.prefix_rfl
  | cons q rest ih => exact (shelves_isPrefix_serve q).trans (ih (lib.serve q))

theorem gives_serve (q : Request) (rest : List Request) (asked : Option Path) :
    (lib.serve q).gives rest asked = lib.gives (q :: rest) asked := by
  cases asked with
  | none => exact default_serve q
  | some p =>
    simp only [gives, shelf_serve, Option.or_assoc, List.findSome?_cons]
    cases q.load? p <;> rfl

/-- A request gets what all requests for its folder get. -/
theorem find_eq_gives (q : Request) (rest : List Request) :
    lib.find q.source q.folder = lib.gives (q :: rest) q.folder := by
  cases hfolder : q.folder with
  | none => rfl
  | some p =>
    have hload : q.load? p = some (q.source p) := by
      unfold Request.load?
      rw [hfolder]
      exact if_pos (beq_self_eq_true p.parts)
    simp only [find, gives, List.findSome?_cons, hload]
    change (lib.shelf p).getD (q.source p) = _
    cases lib.shelf p <;> rfl

/-- Every request gets what all requests for its folder get, be it early or late. -/
theorem answers_eq (requests : List Request) (lib : Library) :
    lib.answers requests = requests.map fun q => lib.gives requests q.folder := by
  induction requests generalizing lib with
  | nil => rfl
  | cons q rest ih =>
    rw [answers, ih, find_eq_gives q rest, List.map_cons]
    refine congrArg _ (List.map_congr_left fun q' _ => ?_)
    exact gives_serve q rest q'.folder

/-! ## Spellings, and other folders -/

theorem load?_congr {p p' : Path} (same : (p == p') = true) (q : Request) :
    q.load? p = q.load? p' := by
  unfold Request.load?
  cases q.folder with
  | none => rfl
  | some spelled => simp only [Path.beq_congr_left same]

theorem gives_congr (lib : Library) (requests : List Request) {p p' : Path}
    (same : (p == p') = true) :
    lib.gives requests (some p) = lib.gives requests (some p') := by
  have hload : (fun q : Request => q.load? p) = (·.load? p') := funext (load?_congr same)
  simp only [gives, lib.shelf_congr same, hload]

theorem load?_of_not_asksFor {p : Path} {q : Request} (other : q.asksFor (some p) = false) :
    q.load? p = none := by
  unfold Request.load?
  cases hfolder : q.folder with
  | none => rfl
  | some spelled =>
    simp only [Request.asksFor, hfolder, Option.any_some] at other
    exact if_neg (Bool.eq_false_iff.mp other)

/-- Only requests for the folder have a say in what they get. -/
theorem gives_filter (lib : Library) (requests : List Request) (asked : Option Path) :
    lib.gives (requests.filter (·.asksFor asked)) asked = lib.gives requests asked := by
  cases asked with
  | none => rfl
  | some p =>
    have hload : (requests.filter (·.asksFor (some p))).findSome? (·.load? p) =
        requests.findSome? (·.load? p) := by
      induction requests with
      | nil => rfl
      | cons q rest ih =>
        cases hasks : q.asksFor (some p) with
        | true => simp only [List.filter_cons, hasks, if_true, List.findSome?_cons, ih]
        | false =>
          have hload : q.load? p = none := load?_of_not_asksFor hasks
          simp only [List.filter_cons, hasks, Bool.false_eq_true, if_false, ih,
            List.findSome?_cons, hload]
    rw [gives, gives, hload]

theorem gives_of_asksFor (lib : Library) (requests : List Request) {asked : Option Path}
    {q : Request} (asks : q.asksFor asked = true) :
    lib.gives requests q.folder = lib.gives requests asked := by
  unfold Request.asksFor at asks
  cases asked with
  | none => rw [Option.isNone_iff_eq_none.mp asks]
  | some p =>
    obtain ⟨spelled, hfolder, hsame⟩ := (Option.any_eq_true _ _).mp asks
    rw [hfolder, lib.gives_congr requests hsame]

/-- Requests for a folder, or for the default model, are answered as if they were the only ones. -/
theorem answers_filter (lib : Library) (requests : List Request) (asked : Option Path) :
    ((requests.zip (lib.answers requests)).filter (·.1.asksFor asked)).map (·.2) =
      lib.answers (requests.filter (·.asksFor asked)) := by
  have hzip : requests.zip (lib.answers requests) =
      requests.map fun q => (q, lib.gives requests q.folder) := by
    rw [answers_eq, List.map_prod_left_eq_zip]
  rw [hzip, answers_eq, List.filter_map, List.map_map]
  refine List.map_congr_left fun q hq => ?_
  have hasks : q.asksFor asked = true := (List.mem_filter.mp hq).2
  rw [gives_of_asksFor lib _ hasks, gives_filter, Function.comp_apply,
    gives_of_asksFor lib _ hasks]

/-! ## Files that stay the same -/

/-- While loading a folder gives the same, each request gets what it would get as the first one. -/
theorem answers_of_source {source : Path → Option Model} (coherent : Coherent source)
    {requests : List Request} (still : ∀ q ∈ requests, q.source = source) (lib : Library) :
    lib.answers requests = requests.map fun q => lib.find source q.folder := by
  induction requests generalizing lib with
  | nil => rfl
  | cons q rest ih =>
    rw [List.forall_mem_cons] at still
    have hserve : (lib.serve q).find source = lib.find source := by
      unfold serve
      rw [still.1, find_recordAll coherent]
    rw [answers, ih still.2, hserve, still.1, List.map_cons]

/-! ## What registrations give -/

theorem default_foldl_enter (registrations : List Registration) (lib : Library) :
    (registrations.foldl enter lib).default =
      ((registrations.filterMap (·.default?)).getLast?).or lib.default := by
  induction registrations generalizing lib with
  | nil => rfl
  | cons r rest ih =>
    rw [List.foldl_cons, ih]
    cases r with
    | default m =>
      simp [Registration.default?, enter, withDefault, List.getLast?_cons]
    | folder p m =>
      have hdefault : (lib.enter (.folder p m)).default = lib.default := by
        simp only [enter, register, shelve]
        split <;> rfl
      simp [Registration.default?, hdefault]

theorem shelf_foldl_enter (registrations : List Registration) (lib : Library) (p : Path) :
    (registrations.foldl enter lib).shelf p =
      (lib.shelf p).or ((registrations.findSome? (·.modelFor? p)).map some) := by
  induction registrations generalizing lib with
  | nil => simp
  | cons r rest ih =>
    rw [List.foldl_cons, ih, List.findSome?_cons]
    cases r with
    | default m => rfl
    | folder q m =>
      have hshelf := shelf_shelve q p (some m) lib
      simp only [enter, register, hshelf, Option.or_assoc, Registration.modelFor?]
      cases p == q <;> simp

/-- What requests for a folder are entitled to: the first model that was registered for it or, if
there is none, what loading it gave to the first request that names it, which may be nothing.  Those
that name no folder get the default model that was registered last. -/
def entitled (registrations : List Registration) (requests : List Request) :
    Option Path → Option Model
  | none => (registrations.filterMap (·.default?)).getLast?
  | some p =>
    match registrations.findSome? (·.modelFor? p) with
    | some m => some m
    | none => (requests.findSome? (·.load? p)).join

theorem gives_stocked (registrations : List Registration) (requests : List Request)
    (asked : Option Path) :
    (stocked registrations).gives requests asked = entitled registrations requests asked := by
  unfold stocked gives entitled
  cases asked with
  | none =>
    rw [default_foldl_enter]
    exact Option.or_none
  | some p =>
    simp only [shelf_foldl_enter]
    cases registrations.findSome? (·.modelFor? p) <;> rfl

/-! ## Any row of requests -/

/-- Whatever happens to the files between requests, all requests for a folder, in whatever
spelling, get the one thing that the folder is entitled to, and what has been put on a shelf stays
there.  Requests for a folder are answered as if there were no others.  While the files stay the
same, each request gets what it would get as the first one, so that their order does not matter. -/
theorem answers_once_for_all (registrations : List Registration) (requests : List Request) :
    let lib := stocked registrations
    lib.answers requests = requests.map (fun q => entitled registrations requests q.folder) ∧
    (∀ p p' : Path, (p == p') = true →
      entitled registrations requests (some p) = entitled registrations requests (some p')) ∧
    (∀ earlier later, requests = earlier ++ later →
      (lib.after earlier).shelves <+: (lib.after requests).shelves ∧
        (lib.after requests).default = lib.default) ∧
    (∀ asked, ((requests.zip (lib.answers requests)).filter (·.1.asksFor asked)).map (·.2) =
      lib.answers (requests.filter (·.asksFor asked))) ∧
    ∀ tree : FileTree, (∀ q ∈ requests, q.source = loaded tree.find?) →
      lib.answers requests = requests.map fun q => lib.find (loaded tree.find?) q.folder := by
  intro lib
  refine ⟨?_, ?_, ?_, lib.answers_filter requests, ?_⟩
  · rw [answers_eq]
    exact List.map_congr_left fun q _ => gives_stocked registrations requests q.folder
  · intro p p' same
    rw [← gives_stocked, ← gives_stocked, gives_congr _ _ same]
  · rintro earlier later rfl
    refine ⟨?_, default_after _ lib⟩
    rw [after, after, List.foldl_append]
    exact shelves_isPrefix later _
  · intro tree still
    exact answers_of_source (coherent_loaded tree) still lib

/-- A registered folder is found by another spelling, a missing one is not. -/
theorem answers_once_for_all_spelled :
    let requests : List Request :=
      [⟨loaded FileTree.empty.find?, some ⟨"k/"⟩⟩, ⟨loaded FileTree.empty.find?, some ⟨"m"⟩⟩]
    (∀ q ∈ requests, q.source = loaded FileTree.empty.find?) ∧
      (stocked [.folder ⟨"k"⟩ Model.empty]).answers requests = [some Model.empty, none] := by
  intro requests
  have still : ∀ q ∈ requests, q.source = loaded FileTree.empty.find? := by
    intro q hq
    rw [List.mem_cons, List.mem_singleton] at hq
    rcases hq with rfl | rfl <;> rfl
  refine ⟨still, ?_⟩
  rw [(answers_once_for_all [.folder ⟨"k"⟩ Model.empty] requests).2.2.2.2 FileTree.empty still]
  rfl

end Library

end VesselWatch.Track

/-
  Proofs/Engine/Mirror.lean --- engines that nothing tells apart.

  What an engine says about an event follows from its rules and memories; whether its
  workers have been started, and which of them have exited, is not seen.  So two engines
  whose rules are twins, one by one, and whose memories are the same (`Engine.Mirrors`)
  give the same alerts, ask for the same folders and are mirrors again afterwards, in
  whatever order the workers of each take the event (`Mirrors.evaluate`).
-/
import VesselWatch.Proofs.Engine.Reachable
import VesselWatch.Proofs.Rule.Indistinct

set_option autoImplicit false

namespace VesselWatch

/-- Two definitions of one rule, which raise the same alerts on the same events. -/
structure Rule.Twin (a b : Rule) : Prop where
  id : a.id = b.id
  enabled : a.enabled = b.enabled
  exclusive : a.exclusive = b.exclusive
  action : a.action = b.action
  evaluate : ∀ models : Models, Track.Coherent (fun p => models (some p)) →
    ∀ (e : VesselEvent) (s : RuleState), (a.evaluate models e s).Alike (b.evaluate models e s)

theorem Rule.Twin.refl (r : Rule) : r.Twin r := ⟨rfl, rfl, rfl, rfl, fun _ _ _ _ => .refl _⟩

theorem Rule.Twin.raised {a b : Rule} (twin : a.Twin b) (seals : String → Seal)
    (e : VesselEvent) : Alert.raised (seals a.id) a e = Alert.raised (seals b.id) b e := by
  simp only [Alert.raised, twin.id, twin.action]

theorem Outcome.Alike.isMatch {o o' : Outcome RuleError} (alike : o.Alike o') :
    o.isMatch = o'.isMatch := by
  unfold Outcome.isMatch
  rw [alike.verdict]

theorem Outcome.Alike.any_consulted {ε : Type} {o o' : Outcome ε} (alike : o.Alike o')
    (p : Path) : o.consulted.any (p == ·) = o'.consulted.any (p == ·) := by
  have hparts : ∀ folders : List Path,
      folders.any (p == ·) = (folders.map Path.parts).any (p.parts == ·) := by
    intro folders
    rw [List.any_map]
    rfl
  rw [hparts, hparts, alike.consulted]

/-! ## Lists of twins -/

section Lists

variable {α : Type} {R : α → α → Prop} {l l' : List α}

theorem map_eq_of_forall₂ {β : Type} {f g : α → β} (h : ∀ a b, R a b → f a = g b)
    (related : List.Forall₂ R l l') : l.map f = l'.map g := by
  induction related with
  | nil => rfl
  | cons here _ ih => rw [List.map_cons, List.map_cons, h _ _ here, ih]

theorem any_eq_of_forall₂ {p q : α → Bool} (h : ∀ a b, R a b → p a = q b)
    (related : List.Forall₂ R l l') : l.any p = l'.any q := by
  induction related with
  | nil => rfl
  | cons here _ ih => rw [List.any_cons, List.any_cons, h _ _ here, ih]

theorem filter_forall₂ {p q : α → Bool} (h : ∀ a b, R a b → p a = q b)
    (related : List.Forall₂ R l l') : List.Forall₂ R (l.filter p) (l'.filter q) :=
  List.rel_filter (fun {a b} hab => by simp only [h a b hab]) related

theorem find?_forall₂ {p q : α → Bool} (h : ∀ a b, R a b → p a = q b)
    (related : List.Forall₂ R l l') :
    (l.find? p = none ∧ l'.find? q = none) ∨
      ∃ a b, l.find? p = some a ∧ l'.find? q = some b ∧ R a b := by
  induction related with
  | nil => exact Or.inl ⟨rfl, rfl⟩
  | @cons a b _ _ here _ ih =>
    rw [List.find?_cons, List.find?_cons, h a b here]
    cases q b with
    | true => exact Or.inr ⟨a, b, rfl, rfl, here⟩
    | false => exact ih

end Lists

theorem Rule.survivors_forall₂ {rules rules' : List Rule}
    (twins : List.Forall₂ Rule.Twin rules rules') :
    List.Forall₂ Rule.Twin (Rule.survivors rules) (Rule.survivors rules') := by
  have hfirst := find?_forall₂ (p := (·.exclusive)) (q := (·.exclusive))
    (fun _ _ twin => twin.exclusive) twins
  unfold Rule.survivors
  rcases hfirst with ⟨hnone, hnone'⟩ | ⟨a, b, ha, hb, twin⟩
  · rw [hnone, hnone']
    exact twins
  · rw [ha, hb]
    exact .cons twin .nil

namespace Engine

variable {models : Models} {seals : String → Seal} {e : VesselEvent} {en en' : Engine}

/-- The folders asked for are those that the enabled rules ask for. -/
theorem Delivers.any_consulted (wf : en.WellFormed) {done : Evaluation}
    (delivers : en.start.Delivers models seals e done) (p : Path) :
    done.consulted.any (p == ·) = en.rules.any fun r =>
      r.enabled && (r.evaluate models e (en.memory r.id)).consulted.any (p == ·) := by
  -- Each enabled rule has a worker that runs it and finishes, and there are no other workers.
  obtain ⟨finished, perm, hconsulted⟩ := delivers.consulted_eq wf.start
  have hmember (id : String) : id ∈ finished ↔ id ∈ (en.rules.filter (·.enabled)).map (·.id) := by
    rw [perm.mem_iff, wf.start.mem_workerKeys (started_start en), rules_start]
  rw [hconsulted, Bool.eq_iff_iff, List.any_eq_true, List.any_eq_true]
  constructor
  · rintro ⟨folder, hfolder, hsame⟩
    obtain ⟨id, hid, hasked⟩ := List.mem_flatMap.mp hfolder
    obtain ⟨r, hr, rfl⟩ := List.mem_map.mp ((hmember id).mp hid)
    obtain ⟨member, enabled⟩ := List.mem_filter.mp hr
    obtain ⟨w, found, rfl⟩ :=
      wf.start.worker_of_enabled (started_start en) ((rules_start en).symm ▸ member) enabled
    refine ⟨w.rule, member, ?_⟩
    rw [enabled, Bool.true_and, List.any_eq_true]
    refine ⟨folder, ?_, hsame⟩
    simpa [consults, found, reaction] using hasked
  · rintro ⟨r, member, hr⟩
    rw [Bool.and_eq_true, List.any_eq_true] at hr
    obtain ⟨enabled, folder, hasked, hsame⟩ := hr
    obtain ⟨w, found, rfl⟩ :=
      wf.start.worker_of_enabled (started_start en) ((rules_start en).symm ▸ member) enabled
    refine ⟨folder, List.mem_flatMap.mpr ⟨w.rule.id, ?_, ?_⟩, hsame⟩
    · rw [hmember]
      exact List.mem_map_of_mem (List.mem_filter.mpr ⟨member, enabled⟩)
    · simpa [consults, found, reaction] using hasked

/-- The rules are twins, one by one, and each id has the same memory. -/
structure Mirrors (en en' : Engine) : Prop where
  rules : List.Forall₂ Rule.Twin en.rules en'.rules
  state? : ∀ id, en.state? id = en'.state? id

namespace Mirrors

theorem of_eq (rules : en.rules = en'.rules) (states : ∀ id, en.state? id = en'.state? id) :
    en.Mirrors en' where
  rules := by
    rw [← rules, List.forall₂_same]
    exact fun r _ => .refl r
  state? := states

theorem memory (mirrors : en.Mirrors en') (id : String) : en.memory id = en'.memory id := by
  unfold Engine.memory
  rw [mirrors.state? id]

theorem named (mirrors : en.Mirrors en') (id : String) :
    (Rule.named id en.rules = none ∧ Rule.named id en'.rules = none) ∨
      ∃ a b, Rule.named id en.rules = some a ∧ Rule.named id en'.rules = some b ∧ a.Twin b :=
  find?_forall₂ (fun _ _ twin => by rw [twin.id]) mirrors.rules

/-- Twins come to the same, each in its own engine. -/
theorem outcome (mirrors : en.Mirrors en')
    (coherent : Track.Coherent fun p => models (some p)) (e : VesselEvent) {a b : Rule}
    (twin : a.Twin b) :
    (a.evaluate models e (en.memory a.id)).Alike (b.evaluate models e (en'.memory b.id)) := by
  rw [mirrors.memory, twin.id]
  exact twin.evaluate models coherent e _

theorem matching (mirrors : en.Mirrors en')
    (coherent : Track.Coherent fun p => models (some p)) (e : VesselEvent) :
    List.Forall₂ Rule.Twin (en.matching models e) (en'.matching models e) := by
  refine filter_forall₂ (fun a b twin => ?_) mirrors.rules
  rw [twin.enabled, (mirrors.outcome coherent e twin).isMatch]

section Evaluate

variable {done done' : Evaluation}

theorem alerts (mirrors : en.Mirrors en') (wf : en.WellFormed) (wf' : en'.WellFormed)
    (coherent : Track.Coherent fun p => models (some p))
    (delivers : en.start.Delivers models seals e done)
    (delivers' : en'.start.Delivers models seals e done') :
    resolveExclusive en.rules done.alerts = resolveExclusive en'.rules done'.alerts := by
  have hsurvivors := Rule.survivors_forall₂ (mirrors.matching coherent e)
  calc resolveExclusive en.rules done.alerts
      = (Rule.survivors (en.matching models e)).map fun r => Alert.raised (seals r.id) r e :=
        resolveExclusive_raised wf.distinct (fun _ => rfl) (delivers.alerts_perm wf)
    _ = (Rule.survivors (en'.matching models e)).map fun r => Alert.raised (seals r.id) r e :=
        map_eq_of_forall₂ (fun _ _ twin => twin.raised seals e) hsurvivors
    _ = resolveExclusive en'.rules done'.alerts :=
        (resolveExclusive_raised wf'.distinct (fun _ => rfl) (delivers'.alerts_perm wf')).symm

theorem state?_evaluate (mirrors : en.Mirrors en') (wf : en.WellFormed) (wf' : en'.WellFormed)
    (coherent : Track.Coherent fun p => models (some p))
    (delivers : en.start.Delivers models seals e done)
    (delivers' : en'.start.Delivers models seals e done') (id : String) :
    done.engine.state? id = done'.engine.state? id := by
  rcases mirrors.named id with ⟨hnone, hnone'⟩ | ⟨a, b, ha, hb, twin⟩
  · rw [delivers.state?_none wf hnone, delivers'.state?_none wf' hnone']
  · have hafter := delivers.state?_rule wf (Rule.mem_of_named ha)
    have hafter' := delivers'.state?_rule wf' (Rule.mem_of_named hb)
    have hstate := (mirrors.outcome coherent e twin).state
    rw [Rule.id_of_named ha] at hafter hstate
    rw [Rule.id_of_named hb] at hafter' hstate
    rw [hafter, hafter', twin.enabled, hstate, mirrors.memory]

/-- An event leaves mirrors, with the same alerts and after the same folders were asked for. -/
theorem evaluate (mirrors : en.Mirrors en') (wf : en.WellFormed) (wf' : en'.WellFormed)
    (coherent : Track.Coherent fun p => models (some p))
    (delivers : en.start.Delivers models seals e done)
    (delivers' : en'.start.Delivers models seals e done') :
    done.engine.Mirrors done'.engine ∧
      resolveExclusive en.rules done.alerts = resolveExclusive en'.rules done'.alerts ∧
      ∀ p, done.consulted.any (p == ·) = done'.consulted.any (p == ·) := by
  refine ⟨⟨?_, ?_⟩, mirrors.alerts wf wf' coherent delivers delivers', fun p => ?_⟩
  · rw [delivers.rules_eq wf, delivers'.rules_eq wf']
    exact mirrors.rules
  · exact mirrors.state?_evaluate wf wf' coherent delivers delivers'
  · rw [delivers.any_consulted wf, delivers'.any_consulted wf']
    refine any_eq_of_forall₂ (fun a b twin => ?_) mirrors.rules
    rw [twin.enabled, (mirrors.outcome coherent e twin).any_consulted]

end Evaluate

end Mirrors

end Engine

end VesselWatch

/-
  Proofs/Engine/Broadcast.lean --- one event before many workers, in every order.

  `Engine.evaluate` takes the workers one after another.  In a running engine each of
  them takes the event from its own queue when it gets to it, works on it for as long
  as it needs, and finishes when it does.  `Broadcast.Step` is one such move of one
  worker; the moves of different workers come in any order.

  A worker reads the memory of its rule when it receives the event and writes it when
  it finishes.  In between others finish, but they write elsewhere: that is what
  `Sound` says of every moment on the way, and from it the engine after the last move
  is known (`Delivers.engine_eq`), whatever the order was.  `evaluateIn` is one of the
  orders (`delivers_foldl_visit`).
-/
import VesselWatch.Proofs.Engine.WellFormed
import Mathlib.Logic.Relation

set_option autoImplicit false

namespace VesselWatch

open Relation

/-- An event on its way through the workers. -/
structure Broadcast where
  /-- what has come of it so far -/
  done : Evaluation
  /-- the workers that have the event in their queue -/
  queued : List String
  /-- the workers at work on it, each with what will come of its rule -/
  busy : List (String × Outcome RuleError)
  /-- the workers that are done with it, in the order in which they finished -/
  finished : List String

namespace Broadcast

/-- The event stands in the queue of every worker. -/
def opening (en : Engine) : Broadcast := ⟨⟨en, [], []⟩, en.workers.map (·.1), [], []⟩

variable (models : Models) (seals : String → Seal) (e : VesselEvent)

/-- One move of one worker. -/
inductive Step : Broadcast → Broadcast → Prop
  /-- a worker that has exited gives the event back -/
  | refuse {done before id after busy finished w}
      (found : done.engine.workers.lookup id = some w) (exited : w.exited = true) :
      Step ⟨done, before ++ id :: after, busy, finished⟩
        ⟨done, before ++ after, busy, finished ++ [id]⟩
  /-- a worker takes the event from its queue and applies its rule to the memory at hand -/
  | receive {done before id after busy finished w}
      (found : done.engine.workers.lookup id = some w) (live : w.exited = false) :
      Step ⟨done, before ++ id :: after, busy, finished⟩
        ⟨done, before ++ after,
          busy ++ [(id, w.rule.evaluate models e (done.engine.memory id))], finished⟩
  /-- a worker hands in what has come of its rule -/
  | finish {done queued before id o after finished w}
      (found : done.engine.workers.lookup id = some w) :
      Step ⟨done, queued, before ++ (id, o) :: after, finished⟩
        ⟨done.absorb seals e id w o, queued, before ++ after, finished ++ [id]⟩

end Broadcast

namespace Engine

variable (models : Models) (seals : String → Seal) (e : VesselEvent)

/-- Some moves take the event through all workers; what came of it is `done`, its alerts as they
were pushed. -/
def Delivers (en : Engine) (done : Evaluation) : Prop :=
  ∃ finished, ReflTransGen (Broadcast.Step models seals e) (Broadcast.opening en)
    ⟨done, [], [], finished⟩

/-- What comes of the rule that the worker of an id runs. -/
def reaction (w : Worker) (id : String) (en : Engine) : Outcome RuleError :=
  w.rule.evaluate models e (en.memory id)

/-- The engine when the workers of some ids have finished with the event. -/
def progressed (finished : List String) (en : Engine) : Engine :=
  { en with
    states := en.states.map fun p =>
      (p.1, if p.1 ∈ finished then
          ((en.workers.lookup p.1).map fun w => (en.reaction models e w p.1).state).getD p.2
        else p.2)
    workers := en.workers.map fun p =>
      (p.1, if p.1 ∈ finished then { p.2 with exited := (en.reaction models e p.2 p.1).stops }
        else p.2) }

/-- The alerts that the worker of an id pushes. -/
def pushes (en : Engine) (id : String) : List Alert :=
  match en.workers.lookup id with
  | some w =>
    if (en.reaction models e w id).isMatch then [Alert.raised (seals id) w.rule e] else []
  | none => []

/-- The folders whose models the worker of an id asks for. -/
def consults (en : Engine) (id : String) : List Path :=
  match en.workers.lookup id with
  | some w => (en.reaction models e w id).consulted
  | none => []

section Progressed

variable {models e} {en : Engine} {finished : List String}

@[simp] theorem progressed_nil (en : Engine) : en.progressed models e [] = en := by
  simp [progressed]

theorem progressed_congr {others : List String} (h : ∀ id, id ∈ finished ↔ id ∈ others) :
    en.progressed models e finished = en.progressed models e others := by
  simp only [progressed, h]

theorem state?_progressed (id : String) :
    (en.progressed models e finished).state? id =
      (en.state? id).map fun s => if id ∈ finished then
          ((en.workers.lookup id).map fun w => (en.reaction models e w id).state).getD s
        else s :=
  Assoc.lookup_map_values (fun id s => if id ∈ finished then
      ((en.workers.lookup id).map fun w => (en.reaction models e w id).state).getD s
    else s) id en.states

theorem lookup_workers_progressed (id : String) :
    (en.progressed models e finished).workers.lookup id =
      (en.workers.lookup id).map fun w =>
        if id ∈ finished then { w with exited := (en.reaction models e w id).stops } else w :=
  Assoc.lookup_map_values (fun id (w : Worker) =>
    if id ∈ finished then { w with exited := (en.reaction models e w id).stops } else w) id
    en.workers

@[simp] theorem stateKeys_progressed :
    (en.progressed models e finished).states.map (·.1) = en.states.map (·.1) := by
  simp [progressed, Function.comp_def]

@[simp] theorem workerKeys_progressed :
    (en.progressed models e finished).workers.map (·.1) = en.workers.map (·.1) := by
  simp [progressed, Function.comp_def]

/-- Who has not finished has not touched its memory. -/
theorem memory_progressed {id : String} (h : id ∉ finished) :
    (en.progressed models e finished).memory id = en.memory id := by
  unfold memory
  rw [state?_progressed]
  simp [h]

theorem worker_progressed {id : String} (h : id ∉ finished) :
    (en.progressed models e finished).workers.lookup id = en.workers.lookup id := by
  rw [lookup_workers_progressed]
  simp [h]

theorem WellFormed.mem_stateKeys (wf : en.WellFormed) {id : String} {w : Worker}
    (found : en.workers.lookup id = some w) : id ∈ en.states.map (·.1) := by
  rw [← Assoc.lookup_isSome_iff_mem_keys]
  refine (wf.remembered id).mpr ?_
  rw [(wf.worker_rule found).1]
  rfl

/-- A worker that finishes writes what has come of its rule to its own places only. -/
theorem WellFormed.absorb_progressed (wf : en.WellFormed) {id : String} {w : Worker}
    (found : en.workers.lookup id = some w) (seals : String → Seal) {done : Evaluation}
    (hengine : done.engine = en.progressed models e finished) :
    (done.absorb seals e id w (en.reaction models e w id)).engine =
      en.progressed models e (finished ++ [id]) := by
  have hstate : id ∈ (en.progressed models e finished).states.map (·.1) := by
    rw [stateKeys_progressed]
    exact wf.mem_stateKeys found
  have hworker : id ∈ (en.progressed models e finished).workers.map (·.1) := by
    rw [workerKeys_progressed, ← Assoc.lookup_isSome_iff_mem_keys, found]
    rfl
  have hstates : Assoc.put id (en.reaction models e w id).state
      (en.progressed models e finished).states =
        (en.progressed models e (finished ++ [id])).states := by
    rw [Assoc.put_eq_map _ (by rw [stateKeys_progressed]; exact wf.stateKeys) hstate]
    simp only [progressed, List.map_map]
    refine List.map_congr_left fun p _ => ?_
    by_cases hp : p.1 = id
    · simp [hp, found]
    · simp [hp]
  have hworkers : Assoc.put id { w with exited := (en.reaction models e w id).stops }
      (en.progressed models e finished).workers =
        (en.progressed models e (finished ++ [id])).workers := by
    rw [Assoc.put_eq_map _ (by rw [workerKeys_progressed]; exact wf.workerKeys) hworker]
    simp only [progressed, List.map_map]
    refine List.map_congr_left fun p hp => ?_
    by_cases hid : p.1 = id
    · have hsame : en.workers.lookup p.1 = some p.2 :=
        (Assoc.lookup_eq_some_iff_mem wf.workerKeys).mpr hp
      rw [hid, found, Option.some.injEq] at hsame
      simp [hid, hsame]
    · simp [hid]
  rw [Evaluation.absorb, hengine, hstates, hworkers]
  rfl

end Progressed

end Engine

/-! ## Every moment on the way -/

namespace Broadcast

variable {models : Models} {seals : String → Seal} {e : VesselEvent} {en : Engine}

variable (models seals e en) in
/-- What is true of the event's way through the workers of `en` at every moment. -/
structure Sound (b : Broadcast) : Prop where
  /-- each worker has the event in its queue, at hand, or behind it -/
  workers : (b.finished ++ (b.busy.map (·.1) ++ b.queued)).Perm (en.workers.map (·.1))
  engine : b.done.engine = en.progressed models e b.finished
  busy : ∀ p ∈ b.busy, ∃ w, en.workers.lookup p.1 = some w ∧ w.exited = false ∧
    p.2 = en.reaction models e w p.1
  alerts : b.done.alerts = b.finished.flatMap (en.pushes models seals e)
  consulted : b.done.consulted = b.finished.flatMap (en.consults models e)

theorem sound_opening : Sound models seals e en (opening en) where
  workers := by simp [opening]
  engine := (Engine.progressed_nil en).symm
  busy := fun _ h => by cases h
  alerts := rfl
  consulted := rfl

/-- A worker that has exited stays as it is, and so does its memory. -/
theorem progressed_of_exited (wf : en.WellFormed) {id : String} {w : Worker}
    (found : en.workers.lookup id = some w) (exited : w.exited = true) (finished : List String) :
    en.progressed models e (finished ++ [id]) = en.progressed models e finished := by
  obtain ⟨word, hword⟩ := (wf.halted id w found exited).evaluate models e (en.memory id)
  have hreaction : en.reaction models e w id = ⟨.error (.unsupportedLogic word), _, []⟩ := hword
  have hstates : (en.progressed models e (finished ++ [id])).states =
      (en.progressed models e finished).states := by
    refine List.map_congr_left fun p hp => ?_
    by_cases hid : p.1 = id
    · have hsame : en.state? p.1 = some p.2 :=
        (Assoc.lookup_eq_some_iff_mem wf.stateKeys).mpr hp
      rw [hid] at hsame
      simp [hid, found, hreaction, Engine.memory, hsame]
    · simp [hid]
  have hworkers : (en.progressed models e (finished ++ [id])).workers =
      (en.progressed models e finished).workers := by
    refine List.map_congr_left fun p hp => ?_
    by_cases hid : p.1 = id
    · have hsame : en.workers.lookup p.1 = some p.2 :=
        (Assoc.lookup_eq_some_iff_mem wf.workerKeys).mpr hp
      rw [hid, found, Option.some.injEq] at hsame
      have hstops : (en.reaction models e p.2 id).stops = p.2.exited := by
        rw [← hsame, hreaction, exited]
        rfl
      simp [hid, hstops]
    · simp [hid]
  have hfields : ∀ a b : Engine, a.rules = b.rules → a.workers = b.workers →
      a.states = b.states → a.started = b.started → a = b := by
    rintro ⟨⟩ ⟨⟩ rfl rfl rfl rfl
    rfl
  exact hfields _ _ rfl hworkers hstates rfl

theorem pushes_of_exited (wf : en.WellFormed) {id : String} {w : Worker}
    (found : en.workers.lookup id = some w) (exited : w.exited = true) :
    en.pushes models seals e id = [] := by
  obtain ⟨word, hword⟩ := (wf.halted id w found exited).evaluate models e (en.memory id)
  have hreaction : en.reaction models e w id = ⟨.error (.unsupportedLogic word), _, []⟩ := hword
  simp [Engine.pushes, found, hreaction, Outcome.isMatch]

theorem consults_of_exited (wf : en.WellFormed) {id : String} {w : Worker}
    (found : en.workers.lookup id = some w) (exited : w.exited = true) :
    en.consults models e id = [] := by
  obtain ⟨word, hword⟩ := (wf.halted id w found exited).evaluate models e (en.memory id)
  have hreaction : en.reaction models e w id = ⟨.error (.unsupportedLogic word), _, []⟩ := hword
  simp [Engine.consults, found, hreaction]

/-- A worker that has the event in its queue or at hand has not finished with it. -/
theorem Sound.not_finished (wf : en.WellFormed) {b : Broadcast}
    (sound : Sound models seals e en b) {id : String}
    (pending : id ∈ b.busy.map (·.1) ++ b.queued) : id ∉ b.finished := by
  have nodup := sound.workers.symm.nodup wf.workerKeys
  intro h
  exact (List.nodup_append.mp nodup).2.2 id h id pending rfl

/-- A move neither brings a worker in nor loses one. -/
theorem Step.workers_perm {b b' : Broadcast} (step : Step models seals e b b') :
    (b'.finished ++ (b'.busy.map (·.1) ++ b'.queued)).Perm
      (b.finished ++ (b.busy.map (·.1) ++ b.queued)) := by
  cases step with
  | @refuse _ before id after busy finished _ _ _ =>
    rw [List.append_assoc]
    refine List.Perm.append_left finished ?_
    have hmove : (id :: (busy.map (·.1) ++ before ++ after)).Perm
        (busy.map (·.1) ++ before ++ id :: after) := List.perm_middle.symm
    simpa using hmove
  | @receive _ before id after busy finished _ _ _ =>
    refine List.Perm.append_left finished ?_
    have hmove : (id :: (before ++ after)).Perm (before ++ id :: after) :=
      List.perm_middle.symm
    simpa using hmove.append_left (busy.map (·.1))
  | @finish _ queued before id _ after finished _ _ =>
    rw [List.append_assoc]
    refine List.Perm.append_left finished ?_
    have hmove : (id :: (before.map (·.1) ++ (after.map (·.1) ++ queued))).Perm
        (before.map (·.1) ++ id :: (after.map (·.1) ++ queued)) := List.perm_middle.symm
    simpa using hmove

/-- One move keeps what is true at every moment. -/
theorem Sound.step (wf : en.WellFormed) {b b' : Broadcast} (sound : Sound models seals e en b)
    (step : Step models seals e b b') : Sound models seals e en b' := by
  have hengine := sound.engine
  have hworkers := step.workers_perm.trans sound.workers
  cases step with
  | @refuse done before id after busy finished w found exited =>
    -- Applying the rule would have changed nothing, so the worker counts as having done it.
    have hid : id ∉ finished := sound.not_finished wf (by simp)
    have hfound : en.workers.lookup id = some w := by
      rw [← found, hengine, Engine.worker_progressed hid]
    exact
      { workers := hworkers
        engine := by rw [progressed_of_exited wf hfound exited, hengine]
        busy := sound.busy
        alerts := by
          rw [List.flatMap_append, ← sound.alerts]
          simp [pushes_of_exited wf hfound exited]
        consulted := by
          rw [List.flatMap_append, ← sound.consulted]
          simp [consults_of_exited wf hfound exited] }
  | @receive done before id after busy finished w found live =>
    -- Whoever has finished so far has left this worker's memory as it was.
    have hid : id ∉ finished := sound.not_finished wf (by simp)
    have hfound : en.workers.lookup id = some w := by
      rw [← found, hengine, Engine.worker_progressed hid]
    have hmemory : done.engine.memory id = en.memory id := by
      rw [hengine, Engine.memory_progressed hid]
    exact
      { workers := hworkers
        engine := hengine
        busy := by
          intro p hp
          rcases List.mem_append.mp hp with hp | hp
          · exact sound.busy p hp
          · rw [List.mem_singleton] at hp
            subst hp
            refine ⟨w, hfound, live, ?_⟩
            rw [hmemory]
            rfl
        alerts := sound.alerts
        consulted := sound.consulted }
  | @finish done queued before id o after finished w found =>
    have hid : id ∉ finished := sound.not_finished wf (by simp)
    have hfound : en.workers.lookup id = some w := by
      rw [← found, hengine, Engine.worker_progressed hid]
    obtain ⟨w', hfound', -, ho⟩ := sound.busy (id, o) (by simp)
    have hw : w = w' := Option.some.inj (hfound.symm.trans hfound')
    have hreaction : o = en.reaction models e w id := hw ▸ ho
    subst hreaction
    exact
      { workers := hworkers
        engine := wf.absorb_progressed hfound seals hengine
        busy := by
          intro p hp
          refine sound.busy p ?_
          rcases List.mem_append.mp hp with hp | hp
          · exact List.mem_append_left _ hp
          · exact List.mem_append_right _ (List.mem_cons_of_mem _ hp)
        alerts := by
          rw [List.flatMap_append, ← sound.alerts]
          simp [Evaluation.absorb, Engine.pushes, hfound]
        consulted := by
          rw [List.flatMap_append, ← sound.consulted]
          simp [Evaluation.absorb, Engine.consults, hfound] }

theorem Sound.steps (wf : en.WellFormed) {b b' : Broadcast} (sound : Sound models seals e en b)
    (steps : ReflTransGen (Step models seals e) b b') : Sound models seals e en b' := by
  induction steps with
  | refl => exact sound
  | tail _ step ih => exact ih.step wf step

/-! ## One worker after another -/

theorem Sound.worker_of_queued (wf : en.WellFormed) {b : Broadcast}
    (sound : Sound models seals e en b) {id : String} (queued : id ∈ b.queued) :
    ∃ w, b.done.engine.workers.lookup id = some w := by
  have hid : id ∉ b.finished := sound.not_finished wf (List.mem_append_right _ queued)
  have hkey : id ∈ en.workers.map (·.1) :=
    sound.workers.mem_iff.mp (List.mem_append_right _ (List.mem_append_right _ queued))
  rw [sound.engine, Engine.worker_progressed hid]
  exact Option.isSome_iff_exists.mp (Assoc.lookup_isSome_iff_mem_keys.mpr hkey)

/-- A worker that gets its turn with nobody else at work does what `visit` says. -/
theorem steps_visit {done : Evaluation} {before after finished : List String} {id : String}
    {w : Worker} (found : done.engine.workers.lookup id = some w) :
    ReflTransGen (Step models seals e) ⟨done, before ++ id :: after, [], finished⟩
      ⟨Engine.visit models seals e done id, before ++ after, [], finished ++ [id]⟩ := by
  unfold Engine.visit
  cases exited : w.exited with
  | true =>
    simp only [found, exited, if_true]
    exact ReflTransGen.single (Step.refuse found exited)
  | false =>
    simp only [found, exited, Bool.false_eq_true, if_false]
    let o := w.rule.evaluate models e (done.engine.memory id)
    have hfinish : Step models seals e ⟨done, before ++ after, [] ++ (id, o) :: [], finished⟩
        ⟨done.absorb seals e id w o, before ++ after, [] ++ [], finished ++ [id]⟩ :=
      Step.finish found
    exact (ReflTransGen.single (Step.receive found exited)).tail hfinish

theorem Sound.steps_foldl_visit (wf : en.WellFormed) {order : List String} {done : Evaluation}
    {queued finished : List String} (sound : Sound models seals e en ⟨done, queued, [], finished⟩)
    (perm : order.Perm queued) :
    ∃ finished', ReflTransGen (Step models seals e) ⟨done, queued, [], finished⟩
      ⟨order.foldl (Engine.visit models seals e) done, [], [], finished'⟩ := by
  -- On the order; `Sound` finds the worker whose turn it is.
  induction order generalizing done queued finished with
  | nil =>
    rw [List.nil_perm.mp perm]
    exact ⟨finished, ReflTransGen.refl⟩
  | cons id rest ih =>
    have hqueued : id ∈ queued := perm.mem_iff.mp (List.mem_cons_self ..)
    obtain ⟨w, found⟩ := sound.worker_of_queued wf hqueued
    obtain ⟨before, after, rfl⟩ := List.append_of_mem hqueued
    have hfirst : ReflTransGen (Step models seals e) ⟨done, before ++ id :: after, [], finished⟩
        ⟨Engine.visit models seals e done id, before ++ after, [], finished ++ [id]⟩ :=
      steps_visit found
    have hperm : rest.Perm (before ++ after) := by
      refine List.Perm.cons_inv (perm.trans ?_)
      exact List.perm_middle
    obtain ⟨finished', hrest⟩ := ih (sound.steps wf hfirst) hperm
    exact ⟨finished', hfirst.trans hrest⟩

/-! ## No order of moves gets stuck -/

/-- How many moves are left. -/
def weight (b : Broadcast) : Nat := 2 * b.queued.length + b.busy.length

/-- Each move leaves fewer of them. -/
theorem Step.weight_lt {b b' : Broadcast} (step : Step models seals e b b') :
    b'.weight < b.weight := by
  cases step with
  | refuse _ _ =>
    simp only [weight, List.length_append, List.length_cons]
    omega
  | receive _ _ =>
    simp only [weight, List.length_append, List.length_cons, List.length_nil]
    omega
  | finish _ =>
    simp only [weight, List.length_append, List.length_cons]
    omega

/-- The moves come to an end. -/
theorem wellFounded_step : WellFounded fun b' b => Step models seals e b b' :=
  Subrelation.wf (fun step => Step.weight_lt step) (measure weight).wf

/-- Whatever the workers have done so far, they can get to an end. -/
theorem Sound.completes (wf : en.WellFormed) {b : Broadcast} (sound : Sound models seals e en b) :
    ∃ done finished, ReflTransGen (Step models seals e) b ⟨done, [], [], finished⟩ := by
  -- Those at work finish first; then the others take their turns.
  obtain ⟨done, queued, busy, finished⟩ := b
  induction busy generalizing done finished with
  | nil =>
    obtain ⟨finished', steps⟩ := sound.steps_foldl_visit wf (List.Perm.refl queued)
    exact ⟨_, finished', steps⟩
  | cons p rest ih =>
    obtain ⟨id, o⟩ := p
    have hid : id ∉ finished := sound.not_finished wf (by simp)
    obtain ⟨w, hfound, -, -⟩ := sound.busy (id, o) (List.mem_cons_self ..)
    have found : done.engine.workers.lookup id = some w := by
      rw [sound.engine, Engine.worker_progressed hid]
      exact hfound
    have hfinish : Step models seals e ⟨done, queued, [] ++ (id, o) :: rest, finished⟩
        ⟨done.absorb seals e id w o, queued, [] ++ rest, finished ++ [id]⟩ :=
      Step.finish found
    obtain ⟨done', finished', steps⟩ := ih _ _ (sound.step wf hfinish)
    exact ⟨done', finished', ReflTransGen.head hfinish steps⟩

end Broadcast

namespace Engine

variable {models : Models} {seals : String → Seal} {e : VesselEvent} {en : Engine}

/-- When all workers are done with the event, the engine is the same in whatever order they took
it and finished. -/
theorem Delivers.engine_eq (wf : en.WellFormed) {done : Evaluation}
    (delivers : en.Delivers models seals e done) :
    done.engine = en.progressed models e (en.workers.map (·.1)) := by
  obtain ⟨finished, steps⟩ := delivers
  have sound := Broadcast.sound_opening.steps wf steps
  have hperm : finished.Perm (en.workers.map (·.1)) := by
    simpa using sound.workers
  rw [sound.engine]
  exact progressed_congr fun id => hperm.mem_iff

/-- The alerts are those that the workers push, in the order in which they finished. -/
theorem Delivers.alerts_eq (wf : en.WellFormed) {done : Evaluation}
    (delivers : en.Delivers models seals e done) :
    ∃ finished : List String, finished.Perm (en.workers.map (·.1)) ∧
      done.alerts = finished.flatMap (en.pushes models seals e) := by
  obtain ⟨finished, steps⟩ := delivers
  have sound := Broadcast.sound_opening.steps wf steps
  exact ⟨finished, by simpa using sound.workers, sound.alerts⟩

/-- The folders asked for are those that the workers ask for, in the order in which they
finished. -/
theorem Delivers.consulted_eq (wf : en.WellFormed) {done : Evaluation}
    (delivers : en.Delivers models seals e done) :
    ∃ finished : List String, finished.Perm (en.workers.map (·.1)) ∧
      done.consulted = finished.flatMap (en.consults models e) := by
  obtain ⟨finished, steps⟩ := delivers
  have sound := Broadcast.sound_opening.steps wf steps
  exact ⟨finished, by simpa using sound.workers, sound.consulted⟩

/-- The workers may take the event one after another, in any order. -/
theorem delivers_foldl_visit (wf : en.WellFormed) {order : List String}
    (perm : order.Perm (en.workers.map (·.1))) :
    en.Delivers models seals e (order.foldl (visit models seals e) ⟨en, [], []⟩) :=
  Broadcast.sound_opening.steps_foldl_visit wf perm

/-- The event leaves the rules and their memories and workers in step. -/
theorem WellFormed.progressed (wf : en.WellFormed) (finished : List String) :
    (en.progressed models e finished).WellFormed where
  distinct := wf.distinct
  descending := wf.descending
  stateKeys := by
    rw [stateKeys_progressed]
    exact wf.stateKeys
  remembered := fun id => by
    rw [state?_progressed, Option.isSome_map]
    exact wf.remembered id
  owned := fun id s hs => by
    rw [state?_progressed, Option.map_eq_some_iff] at hs
    obtain ⟨old, hold, rfl⟩ := hs
    have hmemory : en.memory id = old := by simp [memory, hold]
    split
    · cases hw : en.workers.lookup id with
      | none => exact wf.owned id old hold
      | some w =>
        rw [Option.map_some, Option.getD_some]
        unfold reaction
        rw [Rule.ruleId_evaluate, hmemory]
        exact wf.owned id old hold
    · exact wf.owned id old hold
  workerKeys := by
    rw [workerKeys_progressed]
    exact wf.workerKeys
  staffed := fun id => by
    have hrules : (en.workers.lookup id).map (·.rule) =
        ((en.progressed models e finished).workers.lookup id).map (·.rule) := by
      rw [lookup_workers_progressed, Option.map_map]
      congr 1
      funext w
      by_cases h : id ∈ finished <;> simp [h]
    rw [← hrules]
    exact wf.staffed id
  halted := fun id w found exited => by
    rw [lookup_workers_progressed, Option.map_eq_some_iff] at found
    obtain ⟨old, hold, rfl⟩ := found
    by_cases hid : id ∈ finished
    · rw [if_pos hid] at exited ⊢
      exact Rule.halts_of_stops exited
    · rw [if_neg hid] at exited ⊢
      exact wf.halted id old hold exited

end Engine

end VesselWatch

/-
  Proofs/Engine/Barrier.lean --- what calls get that evaluate events at the same time.

  THE ACCOUNT OF A CALL.  Each ticket of a call is still to be handed out, held by a worker, or
  dropped; the first two are what the call counts as missing.  And each worker may push one alert
  for the call in all: it has done so, or it may still do so because its ticket is to be handed to
  it, waits in its queue, or is at hand without an alert (`Mailbox.chances`).  `Call.Sound` says
  both, every step keeps it (`Sound.step`), and so it holds after every run (`sound_of_run`).

  LOOSE TICKETS.  A step that drops tickets first takes them from a worker and then drops them
  one by one.  In between they are held by nobody, so that the account counts them apart.
-/
import VesselWatch.Proofs.Engine.Tickets
import Mathlib.Data.List.Nodup

set_option autoImplicit false

namespace VesselWatch

/-! ## The account of one call -/

/-- What is true of a call of which `held` tickets are held, `log` has been pushed, and each worker
may still push so many alerts through the tickets that it holds. -/
structure Call.Sound (held : Nat) (log : List (Nat × Alert)) (chances : Nat → Nat) (c : Call) :
    Prop where
  /-- what is missing is held by workers or still to be handed out -/
  missing : c.missing = held + c.unhanded.length
  /-- the permit comes with the last drop -/
  permit : c.permit = true → c.missing = 0
  /-- the permit is there for a call that waits, once nothing is missing -/
  waiting : c.phase = .waiting → c.missing = 0 → c.permit = true
  /-- a call that waits has handed out its tickets -/
  handed : c.phase ≠ .handing → c.unhanded = []
  /-- a call that has returned got all its tickets back -/
  returned : ∀ alerts, c.phase = .returned alerts → c.missing = 0 ∧ c.pushed = []
  received : c.received = log.map (·.2)
  /-- each worker pushes one alert at most -/
  once : ∀ worker, (log.map (·.1)).count worker + c.unhanded.count worker + chances worker ≤ 1

namespace Call.Sound

variable {held : Nat} {log : List (Nat × Alert)} {chances chances' : Nat → Nat} {c : Call}

/-- Chances may be lost. -/
theorem mono (sound : c.Sound held log chances)
    (fewer : ∀ worker, chances' worker ≤ chances worker) : c.Sound held log chances' :=
  { sound with
    once := fun worker => by
      have honce := sound.once worker
      have hfewer := fewer worker
      omega }

/-- A ticket that is handed out is held; the chance that goes with it may go to the worker. -/
theorem hand (sound : c.Sound held log chances) {worker : Nat} (member : worker ∈ c.unhanded)
    (gained : ∀ i, chances' i ≤ chances i + if i = worker then 1 else 0) :
    { c with unhanded := c.unhanded.erase worker }.Sound (held + 1) log chances' where
  missing := by
    have hmissing := sound.missing
    have hlength := List.length_erase_of_mem member
    have hpos := List.length_pos_of_mem member
    simp only
    omega
  permit := sound.permit
  waiting := sound.waiting
  handed := fun phase => by
    rw [sound.handed phase] at member
    cases member
  returned := sound.returned
  received := sound.received
  once := fun i => by
    have honce := sound.once i
    have hgained := gained i
    by_cases hi : i = worker
    · subst hi
      have hpos := List.count_pos_iff.mpr member
      rw [if_pos rfl] at hgained
      rw [List.count_erase_self]
      omega
    · rw [if_neg hi] at hgained
      rw [List.count_erase_of_ne hi]
      omega

/-- A ticket that is dropped is no longer held. -/
theorem dropTicket (sound : c.Sound (held + 1) log chances) :
    c.dropTicket.Sound held log chances where
  missing := by
    have hmissing := sound.missing
    simp only [Call.dropTicket]
    omega
  permit := fun hpermit => by
    have hmissing := sound.missing
    simp only [Call.dropTicket, Bool.or_eq_true, beq_iff_eq] at hpermit ⊢
    rcases hpermit with hpermit | hlast
    · have hzero := sound.permit hpermit
      omega
    · omega
  waiting := fun _ hzero => by
    simp only [Call.dropTicket, Bool.or_eq_true, beq_iff_eq] at hzero ⊢
    exact Or.inr (by omega)
  handed := sound.handed
  returned := fun alerts phase => by
    have hmissing := sound.missing
    have hzero := (sound.returned alerts phase).1
    omega
  received := sound.received
  once := sound.once

/-- An alert is pushed by a worker that had the chance. -/
theorem push (sound : c.Sound held log chances) (outstanding : 0 < held) {worker : Nat}
    (alert : Alert) (spent : ∀ i, chances' i + (if i = worker then 1 else 0) ≤ chances i) :
    { c with pushed := c.pushed ++ [alert] }.Sound held (log ++ [(worker, alert)]) chances' where
  missing := sound.missing
  permit := sound.permit
  waiting := sound.waiting
  handed := sound.handed
  returned := fun alerts phase => by
    have hmissing := sound.missing
    have hzero := (sound.returned alerts phase).1
    omega
  received := by
    have hreceived := sound.received
    simp only [Call.received] at hreceived ⊢
    cases hphase : c.phase <;> simp [hphase, ← hreceived]
  once := fun i => by
    have honce := sound.once i
    have hspent := spent i
    have hlog : ((log ++ [(worker, alert)]).map (·.1)).count i =
        (log.map (·.1)).count i + if i = worker then 1 else 0 := by
      rw [List.map_append, List.count_append, List.map_singleton, List.count_singleton]
      simp only [beq_iff_eq, eq_comm (a := worker)]
    rw [hlog]
    simp only
    omega

theorem unhanded_eq_nil (sound : c.Sound held log chances) (done : c.missing = 0) :
    c.unhanded = [] := by
  have hmissing := sound.missing
  exact List.eq_nil_of_length_eq_zero (by omega)

/-- A call that finds nothing missing returns what it has received. -/
theorem finish (sound : c.Sound held log chances) (done : c.missing = 0)
    (pending : c.phase = .handing ∨ c.phase = .waiting) : c.finish.Sound held log chances where
  missing := sound.missing
  permit := fun hpermit => by cases hpermit
  waiting := fun phase => by cases phase
  handed := fun _ => sound.unhanded_eq_nil done
  returned := fun _ _ => ⟨done, rfl⟩
  received := by
    have hreceived : c.received = c.pushed := by
      rcases pending with hphase | hphase <;> simp [Call.received, hphase]
    rw [← sound.received, hreceived]
    exact List.append_nil _
  once := sound.once

/-- A call that gives up returns what it has received so far. -/
theorem abandon (sound : c.Sound held log chances) (phase : c.phase = .waiting) :
    c.abandon.Sound held log chances where
  missing := sound.missing
  permit := sound.permit
  waiting := fun phase => by cases phase
  handed := fun _ => sound.handed (by rw [phase]; exact nofun)
  returned := fun _ phase => by cases phase
  received := by
    rw [← sound.received]
    simp [Call.received, Call.abandon, phase]
  once := sound.once

/-- A call for which something is missing begins to wait. -/
theorem wait (sound : c.Sound held log chances) (missing : c.missing ≠ 0) (handed : c.unhanded = [])
    (phase : c.phase = .handing) : { c with phase := .waiting }.Sound held log chances where
  missing := sound.missing
  permit := sound.permit
  waiting := fun _ hzero => absurd hzero missing
  handed := fun _ => handed
  returned := fun _ phase => by cases phase
  received := by
    rw [← sound.received]
    simp [Call.received, phase]
  once := sound.once

end Call.Sound

/-! ## The account of all calls -/

namespace Barrier

/-- What is true of all calls when `loose` are the tickets on their way from a worker to their drop,
and `log` says what has been pushed. -/
structure Sound (log : Nat → List (Nat × Alert)) (loose : List Nat) (b : Barrier) : Prop where
  /-- there are neither tickets nor alerts of calls that have not begun -/
  unbegun : ∀ call, b.calls.length ≤ call →
    b.tickets.count call + loose.count call = 0 ∧ log call = []
  calls : ∀ call (c : Call), b.calls[call]? = some c →
    c.Sound (b.tickets.count call + loose.count call) (log call) fun worker =>
      b.chances call worker

namespace Sound

variable {log log' : Nat → List (Nat × Alert)} {loose loose' : List Nat} {b b' : Barrier}

theorem empty : Barrier.empty.Sound (fun _ => []) [] where
  unbegun := fun _ _ => ⟨rfl, rfl⟩
  calls := fun call c found => by simp [Barrier.empty] at found

/-- A step in which no call begins is looked at call by call. -/
theorem update (sound : b.Sound log loose) (length : b'.calls.length = b.calls.length)
    (unbegun : ∀ call, b.calls.length ≤ call → log' call = log call ∧
      b'.tickets.count call + loose'.count call ≤ b.tickets.count call + loose.count call)
    (each : ∀ call (c : Call), b.calls[call]? = some c →
      c.Sound (b.tickets.count call + loose.count call) (log call) (fun i => b.chances call i) →
      ∃ c' : Call, b'.calls[call]? = some c' ∧
        c'.Sound (b'.tickets.count call + loose'.count call) (log' call)
          fun i => b'.chances call i) : b'.Sound log' loose' where
  unbegun := fun call hcall => by
    rw [length] at hcall
    obtain ⟨hheld, hlog⟩ := sound.unbegun call hcall
    obtain ⟨hlog', hle⟩ := unbegun call hcall
    exact ⟨by omega, hlog'.trans hlog⟩
  calls := fun call c' found' => by
    have hlt : call < b.calls.length := by
      rw [← length]
      exact (List.getElem?_eq_some_iff.mp found').1
    have found : b.calls[call]? = some b.calls[call] := List.getElem?_eq_getElem hlt
    obtain ⟨c'', found'', hsound⟩ := each call _ found (sound.calls call _ found)
    rw [found', Option.some.injEq] at found''
    exact found'' ▸ hsound

/-- A call goes on within its account. -/
theorem changeCall (sound : b.Sound log loose) {number : Nat} {f : Call → Call}
    (keeps : ∀ c held log chances, b.calls[number]? = some c → c.Sound held log chances →
      (f c).Sound held log chances) : (b.changeCall number f).Sound log loose := by
  refine sound.update (length_calls_changeCall number f b) (fun _ _ => ⟨rfl, Nat.le_refl _⟩) ?_
  intro call c found hsound
  rw [getElem?_changeCall, found]
  by_cases heq : number = call
  · subst heq
    exact ⟨f c, if_pos rfl, keeps c _ _ _ found hsound⟩
  · exact ⟨c, if_neg heq, hsound⟩

/-- A loose ticket is dropped. -/
theorem dropOne {number : Nat} (sound : b.Sound log (number :: loose)) :
    (b.changeCall number Call.dropTicket).Sound log loose := by
  refine sound.update (length_calls_changeCall number _ b) (fun call _ => ⟨rfl, ?_⟩) ?_
  · exact Nat.add_le_add_left (List.count_le_count_cons) _
  · intro call c found hsound
    rw [getElem?_changeCall, found]
    by_cases heq : number = call
    · subst heq
      rw [List.count_cons_self, ← Nat.add_assoc] at hsound
      exact ⟨c.dropTicket, if_pos rfl, hsound.dropTicket⟩
    · rw [List.count_cons_of_ne heq] at hsound
      exact ⟨c, if_neg heq, hsound⟩

theorem dropAll {tickets : List Nat} (sound : b.Sound log tickets) :
    (b.dropAll tickets).Sound log [] := by
  unfold Barrier.dropAll
  induction tickets generalizing b with
  | nil => exact sound
  | cons call rest ih => exact ih sound.dropOne

/-- A worker keeps its tickets or lets go of them, and gains no chance. -/
theorem changeWorker (sound : b.Sound log loose) {number : Nat} {w : Mailbox}
    (found : b.workers[number]? = some w) {f : Mailbox → Mailbox}
    (tickets : ∀ call, (f w).tickets.count call + loose'.count call =
      w.tickets.count call + loose.count call)
    (fewer : ∀ call, (f w).chances call ≤ w.chances call) :
    (b.changeWorker number f).Sound log loose' := by
  have hheld : ∀ call, (b.changeWorker number f).tickets.count call + loose'.count call =
      b.tickets.count call + loose.count call := by
    intro call
    have hcount := count_tickets_changeWorker found f call
    have htickets := tickets call
    omega
  refine sound.update rfl (fun call _ => ⟨rfl, Nat.le_of_eq (hheld call)⟩) ?_
  intro call c hcall hsound
  rw [hheld call]
  refine ⟨c, hcall, hsound.mono fun i => ?_⟩
  rw [chances_changeWorker found]
  split
  · next heq =>
    subst heq
    rw [chances_eq found]
    exact fewer call
  · exact Nat.le_refl _

/-! ## Each step -/

theorem hire (sound : b.Sound log []) :
    ({ b with workers := b.workers ++ [Mailbox.fresh] } : Barrier).Sound log [] := by
  have htickets : ({ b with workers := b.workers ++ [Mailbox.fresh] } : Barrier).tickets =
      b.tickets := by
    simp [Barrier.tickets, Mailbox.tickets, Mailbox.fresh]
  have hchances : ∀ call i,
      ({ b with workers := b.workers ++ [Mailbox.fresh] } : Barrier).chances call i =
        b.chances call i := by
    intro call i
    unfold Barrier.chances
    simp only
    rw [List.getElem?_append]
    split
    · rfl
    · next hnew =>
      rw [List.getElem?_eq_none (Nat.le_of_not_lt hnew), List.getElem?_singleton]
      split <;> rfl
  refine sound.update rfl (fun call _ => ⟨rfl, ?_⟩) fun call c found hsound => ?_
  · exact Nat.le_of_eq (by rw [htickets])
  · simp only [htickets, hchances]
    exact ⟨c, found, hsound⟩

/-- A new call has a ticket for each of its workers. -/
theorem begins (sound : b.Sound log []) {workers : List Nat} (distinct : workers.Nodup) :
    ({ b with calls := b.calls ++ [Call.fresh workers] } : Barrier).Sound log [] where
  unbegun := fun call hcall => by
    rw [List.length_append, List.length_singleton] at hcall
    exact sound.unbegun call (by omega)
  calls := fun call c found => by
    simp only at found
    rw [List.getElem?_append] at found
    split at found
    · exact sound.calls call c found
    · next hnew =>
      rw [List.getElem?_singleton] at found
      split at found
      · cases found
        -- Nothing can have been done for a call that begins.
        obtain ⟨hheld, hlog⟩ := sound.unbegun call (Nat.le_of_not_lt hnew)
        have hnone : b.tickets.count call = 0 := by omega
        change (Call.fresh workers).Sound (b.tickets.count call + [].count call) (log call) _
        rw [hheld, hlog]
        exact
          { missing := by simp [Call.fresh]
            permit := fun hpermit => by cases hpermit
            waiting := fun phase => by cases phase
            handed := fun phase => absurd rfl phase
            returned := fun _ phase => by cases phase
            received := rfl
            once := fun worker => by
              have hchances : b.chances call worker ≤ 0 := hnone ▸ chances_le_count call worker b
              have hcount := List.nodup_iff_count_le_one.mp distinct worker
              change [].count worker + workers.count worker + b.chances call worker ≤ 1
              rw [List.count_nil]
              omega }
      · cases found

/-- A ticket that a call hands out is loose at first. -/
theorem handOut (sound : b.Sound log []) {number worker : Nat} {c : Call}
    (found : b.calls[number]? = some c) (member : worker ∈ c.unhanded) :
    (b.changeCall number fun c => { c with unhanded := c.unhanded.erase worker }).Sound log
      [number] := by
  have hbegun : number < b.calls.length := (List.getElem?_eq_some_iff.mp found).1
  refine sound.update (length_calls_changeCall number _ b) (fun call hcall => ⟨rfl, ?_⟩) ?_
  · rw [List.count_singleton, if_neg (by simp; omega)]
    exact Nat.le_refl _
  · intro call c' found' hsound
    rw [getElem?_changeCall, found']
    by_cases heq : number = call
    · subst heq
      rw [found, Option.some.injEq] at found'
      subst found'
      refine ⟨_, if_pos rfl, ?_⟩
      rw [List.count_singleton_self]
      exact hsound.hand member fun i => Nat.le_add_right _ _
    · refine ⟨c', if_neg heq, ?_⟩
      rw [List.count_singleton, if_neg (by simpa using heq)]
      exact hsound

/-- A ticket that a call hands over is held by the worker, and the chance goes with it. -/
theorem handedOver (sound : b.Sound log []) {number worker : Nat} {c : Call} {w : Mailbox}
    (found : b.calls[number]? = some c) (member : worker ∈ c.unhanded)
    (here : b.workers[worker]? = some w) : (b.handedOver number worker).Sound log [] := by
  have hbegun : number < b.calls.length := (List.getElem?_eq_some_iff.mp found).1
  have hother : ∀ call, number ≠ call → [number].count call = 0 := fun call hne =>
    List.count_eq_zero.mpr (by simpa using Ne.symm hne)
  refine sound.update (length_calls_changeCall number _ b) (fun call hcall => ⟨rfl, ?_⟩) ?_
  · have hheld := count_tickets_handedOver here number call
    have hnone := hother call (by omega)
    omega
  · intro call c' found' hsound
    simp only [count_tickets_handedOver here, chances_handedOver here]
    change ∃ c'' : Call, (b.changeCall number _).calls[call]? = some c'' ∧ _
    rw [getElem?_changeCall, found']
    by_cases heq : number = call
    · subst heq
      rw [found, Option.some.injEq] at found'
      subst found'
      refine ⟨_, if_pos rfl, ?_⟩
      rw [List.count_singleton_self]
      exact hsound.hand member fun i => Nat.le_refl _
    · refine ⟨c', if_neg heq, ?_⟩
      simpa only [hother call heq, ite_self, Nat.add_zero] using hsound

/-- A worker that pushes an alert has not pushed one for the event at hand. -/
theorem pushedOn (sound : b.Sound log []) {number worker : Nat} {w : Mailbox}
    (here : b.workers[worker]? = some w) (current : w.current = some number)
    (fresh : w.hasPushed = false) (alert : Alert) :
    (b.pushedOn number worker alert).Sound
      (fun call => log call ++ if number = call then [(worker, alert)] else []) [] := by
  have hheld : 0 < b.tickets.count number := by
    have hcount := chances_le_count number worker b
    have hchance : 0 < b.chances number worker := by
      rw [chances_eq here, Mailbox.chances, if_pos ⟨current, fresh⟩]
      exact Nat.succ_pos _
    omega
  refine sound.update (length_calls_changeCall number _ _) (fun call hcall => ⟨?_, ?_⟩) ?_
  · have hbegun : number ≠ call := fun heq => by
      have hnone := (sound.unbegun call hcall).1
      rw [heq] at hheld
      omega
    rw [if_neg hbegun, List.append_nil]
  · exact Nat.le_of_eq (by rw [count_tickets_pushedOn here])
  · intro call c found hsound
    have hchances := chances_pushedOn here current fresh alert call
    rw [count_tickets_pushedOn here]
    change ∃ c' : Call, ((b.changeWorker worker _).changeCall number _).calls[call]? = some c' ∧ _
    rw [getElem?_changeCall]
    change ∃ c' : Call, (if number = call then b.calls[call]?.map _ else b.calls[call]?) =
      some c' ∧ _
    rw [found]
    by_cases heq : number = call
    · subst heq
      simp only [List.count_singleton_self] at hchances
      rw [if_pos rfl, if_pos rfl]
      exact ⟨_, rfl, hsound.push (Nat.lt_of_lt_of_le hheld (Nat.le_add_right _ _)) alert
        fun i => Nat.le_of_eq (hchances i)⟩
    · rw [if_neg heq, if_neg heq, List.append_nil]
      exact ⟨c, rfl, hsound.mono fun i => by
        have hi := hchances i
        omega⟩

/-! ## Step after step -/

/-- Every step keeps the account of every call. -/
theorem step (sound : b.Sound log []) {s : BarrierStep} (next : b.step s = some b') :
    b'.Sound (fun call => log call ++ b.pushedBy call s) [] := by
  cases s with
  | push worker alert =>
    obtain ⟨queue, number, here, rfl⟩ := of_push next
    simpa only [pushedBy, here, Option.bind_some, Option.some.injEq] using
      sound.pushedOn here rfl rfl alert
  | hire =>
    cases next
    simpa only [pushedBy, List.append_nil] using sound.hire
  | call workers =>
    simp only [Barrier.step] at next
    split at next
    · next possible =>
      cases next
      simpa only [pushedBy, List.append_nil] using sound.begins possible.1
    · cases next
  | hand call worker =>
    simp only [pushedBy, List.append_nil]
    obtain ⟨c, w, found, here, member, rfl⟩ := of_hand next
    split
    · exact (sound.handOut found member).dropOne
    · exact sound.handedOver found member here
  | take worker =>
    simp only [pushedBy, List.append_nil]
    obtain ⟨number, queue, pushed, here, rfl⟩ := of_take next
    exact sound.changeWorker here (fun _ => rfl) fun call => by
      simp [Mailbox.chances, List.count_cons]
  | drop worker =>
    simp only [pushedBy, List.append_nil]
    obtain ⟨queue, number, pushed, here, rfl⟩ := of_drop next
    refine dropOne (sound.changeWorker here (fun call => ?_) fun call => ?_)
    · simp [Mailbox.tickets, List.count_cons]
    · simp [Mailbox.chances]
  | exit worker =>
    simp only [pushedBy, List.append_nil]
    obtain ⟨w, here, rfl⟩ := of_exit next
    refine dropAll (sound.changeWorker here (fun call => ?_) fun call => ?_)
    · simp [Mailbox.tickets]
    · simp [Mailbox.chances]
  | wait call =>
    simp only [pushedBy, List.append_nil]
    obtain ⟨c, found, phase, handed, rfl⟩ := of_wait next
    refine sound.changeCall fun c' _ _ _ found' hsound => ?_
    obtain rfl : c = c' := Option.some.inj (found.symm.trans found')
    split
    · next done => exact hsound.finish done (Or.inl phase)
    · next missing => exact hsound.wait missing handed phase
  | wake call =>
    simp only [pushedBy, List.append_nil]
    obtain ⟨c, found, phase, permit, rfl⟩ := of_wake next
    refine sound.changeCall fun c' _ _ _ found' hsound => ?_
    obtain rfl : c = c' := Option.some.inj (found.symm.trans found')
    exact hsound.finish (hsound.permit permit) (Or.inr phase)
  | giveUp call =>
    simp only [pushedBy, List.append_nil]
    obtain ⟨c, found, phase, rfl⟩ := of_giveUp next
    refine sound.changeCall fun c' _ _ _ found' hsound => ?_
    obtain rfl : c = c' := Option.some.inj (found.symm.trans found')
    exact hsound.abandon phase

/-- Every run keeps the account of every call. -/
theorem run (sound : b.Sound log []) {steps : List BarrierStep} (ran : b.run steps = some b') :
    b'.Sound (fun call => log call ++ pushes call steps b) [] := by
  induction steps generalizing b log with
  | nil =>
    cases ran
    simpa only [pushes, List.append_nil] using sound
  | cons s rest ih =>
    obtain ⟨middle, next, later⟩ := Option.bind_eq_some_iff.mp ran
    have hrest := ih (sound.step next) later
    simpa only [pushes, next, List.append_assoc] using hrest

end Sound
/-! ## What a run shows -/

/-- The step is possible, and the call has returned after it. -/
def Returns (call : Nat) (s : BarrierStep) (b : Barrier) : Prop :=
  ∃ b' c alerts, b.step s = some b' ∧ b'.calls[call]? = some c ∧ c.phase = .returned alerts

theorem returns_wait {b : Barrier} {call : Nat} {c : Call} (found : b.calls[call]? = some c)
    (phase : c.phase = .handing) (handed : c.unhanded = []) (done : c.missing = 0) :
    b.Returns call (.wait call) := by
  refine ⟨b.changeCall call fun c =>
    if c.missing = 0 then c.finish else { c with phase := .waiting }, c.finish, c.pushed, ?_, ?_, rfl⟩
  · simp only [step, wait, found]
    rw [if_pos ⟨phase, handed⟩]
  · rw [getElem?_changeCall, if_pos rfl, found, Option.map_some, if_pos done]

theorem returns_wake {b : Barrier} {call : Nat} {c : Call} (found : b.calls[call]? = some c)
    (phase : c.phase = .waiting) (permit : c.permit = true) : b.Returns call (.wake call) := by
  refine ⟨b.changeCall call Call.finish, c.finish, c.pushed, ?_, ?_, rfl⟩
  · simp only [step, wake, found]
    rw [if_pos ⟨phase, permit⟩]
  · rw [getElem?_changeCall, if_pos rfl, found, Option.map_some]

theorem sound_of_run {steps : List BarrierStep} {b : Barrier}
    (ran : Barrier.empty.run steps = some b) :
    b.Sound (fun call => pushes call steps Barrier.empty) [] := by
  simpa only [List.nil_append] using Sound.empty.run ran

/-- After every run, from no calls and no workers, and for every call that has begun:

* it counts as missing its tickets that workers hold and those still to be handed out, and so
  never less than none,
* no worker has pushed two alerts through its tickets,
* when it has returned without giving up, nothing is missing, and it has returned the alerts that
  were pushed through its tickets, each of them and no others,
* once nothing is missing, that stays so however the run goes on, and the call can return at any
  time: at once when it is yet to wait, and with the permit when it waits already. -/
theorem run_accounts {steps : List BarrierStep} {b : Barrier}
    (ran : Barrier.empty.run steps = some b) {call : Nat} {c : Call}
    (found : b.calls[call]? = some c) :
    (c.missing = b.tickets.count call + c.unhanded.length ∧ 0 ≤ c.missing) ∧
      ((pushes call steps Barrier.empty).map (·.1)).Nodup ∧
      (∀ alerts, c.phase = .returned alerts →
        c.missing = 0 ∧ alerts = (pushes call steps Barrier.empty).map (·.2)) ∧
      (c.missing = 0 → ∀ more b', b.run more = some b' →
        ∃ c' : Call, b'.calls[call]? = some c' ∧ c'.missing = 0 ∧
          (c'.phase = .handing → b'.Returns call (.wait call)) ∧
          (c'.phase = .waiting → b'.Returns call (.wake call))) := by
  have hsound := (sound_of_run ran).calls call c found
  refine ⟨⟨hsound.missing, by have hmissing := hsound.missing; omega⟩, ?_, ?_, ?_⟩
  · refine List.nodup_iff_count_le_one.mpr fun worker => ?_
    have honce := hsound.once worker
    omega
  · intro alerts phase
    obtain ⟨hdone, hpushed⟩ := hsound.returned alerts phase
    refine ⟨hdone, ?_⟩
    have hreceived := hsound.received
    rw [← hreceived]
    simp [Call.received, phase, hpushed]
  · intro done more b' later
    obtain ⟨c', found', hle⟩ := Advances.run later call c found
    have hran : Barrier.empty.run (steps ++ more) = some b' := by
      unfold Barrier.run at ran later ⊢
      rw [List.foldlM_append, ran]
      exact later
    have hsound' := (sound_of_run hran).calls call c' found'
    have hdone : c'.missing = 0 := by
      have hmissing := hsound'.missing
      omega
    exact ⟨c', found', hdone,
      fun phase => returns_wait found' phase (hsound'.unhanded_eq_nil hdone) hdone,
      fun phase => returns_wake found' phase (hsound'.waiting phase hdone)⟩

/-- Two calls share two workers.  The second worker exits before it takes the first call's ticket
and before it is handed the second call's; the second call begins to wait before the last drop. -/
theorem run_accounts_shared :
    let first : Alert := { (default : Alert) with eventId := "first" }
    let second : Alert := { (default : Alert) with eventId := "second" }
    let steps := [.hire, .hire, .call [0, 1], .call [0, 1], .hand 0 1, .hand 1 0, .hand 0 0,
      .exit 1, .hand 1 1, .wait 1, .take 0, .push 0 second, .drop 0, .take 0, .push 0 first,
      .drop 0, .wait 0]
    let returned : Call := ⟨[], 0, [], false, .returned [first]⟩
    let waiting : Call := ⟨[], 0, [second], true, .waiting⟩
    let b : Barrier := ⟨[returned, waiting], [⟨[], none, false, false⟩, ⟨[], none, false, true⟩]⟩
    Barrier.empty.run steps = some b ∧
      [first] = (pushes 0 steps Barrier.empty).map (·.2) ∧ b.Returns 1 (.wake 1) := by
  intro first second steps returned waiting b
  have ran : Barrier.empty.run steps = some b := rfl
  have hreturned : b.calls[0]? = some returned := rfl
  have hwaiting : b.calls[1]? = some waiting := rfl
  obtain ⟨-, -, hgiven, -⟩ := run_accounts ran hreturned
  obtain ⟨-, -, -, hdone⟩ := run_accounts ran hwaiting
  obtain ⟨c, found, -, -, hwake⟩ := hdone rfl [] b rfl
  obtain rfl : waiting = c := Option.some.inj (hwaiting.symm.trans found)
  exact ⟨ran, (hgiven [first] rfl).2, hwake rfl⟩

end Barrier

end VesselWatch

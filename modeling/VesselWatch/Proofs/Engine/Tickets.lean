/-
  Proofs/Engine/Tickets.lean --- where tickets are, and what steps do to them.

  TICKETS AND CHANCES.  A ticket that has been handed out waits in the queue of a worker or belongs
  to the event at hand, until it is dropped.  The worker may push one alert through it, so that it
  has the chance to do so while the ticket waits, and afterwards as long as it has pushed none.
  What a change does to the tickets and the chances of one worker says what it does to all of them
  (`count_tickets_changeWorker`, `chances_changeWorker`).

  STEPS.  For each kind of step one lemma says when it is possible and what comes of it (`of_hand`
  to `of_giveUp`).  No step gives a call more to wait for (`Advances.step`, `Advances.run`).
-/
import VesselWatch.Engine.Barrier
import Mathlib.Data.List.Count

set_option autoImplicit false

namespace VesselWatch

/-! ## Tickets, chances and alerts -/

namespace Mailbox

/-- The calls whose tickets the worker holds, each as often as it holds one. -/
def tickets (w : Mailbox) : List Nat := w.current.toList ++ w.queue

/-- How many alerts the worker may still push through the tickets of a call that it holds. -/
def chances (call : Nat) (w : Mailbox) : Nat :=
  w.queue.count call + if w.current = some call ∧ w.hasPushed = false then 1 else 0

theorem chances_le_count_tickets (call : Nat) (w : Mailbox) :
    w.chances call ≤ w.tickets.count call := by
  unfold chances tickets
  rw [List.count_append, Nat.add_comm]
  refine Nat.add_le_add_right ?_ _
  split
  · next hcurrent =>
    rw [hcurrent.1]
    simp
  · exact Nat.zero_le _

theorem count_tickets_enqueue (number call : Nat) (w : Mailbox) :
    ({ w with queue := w.queue ++ [number] } : Mailbox).tickets.count call =
      w.tickets.count call + [number].count call := by
  simp only [tickets, List.count_append, Nat.add_assoc]

theorem chances_enqueue (number call : Nat) (w : Mailbox) :
    ({ w with queue := w.queue ++ [number] } : Mailbox).chances call =
      w.chances call + [number].count call := by
  simp only [chances, List.count_append]
  omega

theorem chances_pushed {w : Mailbox} {number : Nat} (current : w.current = some number)
    (fresh : w.hasPushed = false) (call : Nat) :
    ({ w with hasPushed := true } : Mailbox).chances call + [number].count call =
      w.chances call := by
  simp [chances, current, fresh, List.count_singleton]

end Mailbox

/-- All alerts that the call has received, those included that it has returned. -/
def Call.received (c : Call) : List Alert :=
  match c.phase with
  | .returned alerts => alerts ++ c.pushed
  | .gaveUp alerts => alerts ++ c.pushed
  | _ => c.pushed

namespace Barrier

/-- The calls whose tickets are held by workers, each as often as one is. -/
def tickets (b : Barrier) : List Nat := b.workers.flatMap Mailbox.tickets

/-- How many alerts a worker may still push through the tickets of a call that it holds. -/
def chances (call worker : Nat) (b : Barrier) : Nat :=
  (b.workers[worker]?.map (·.chances call)).getD 0

/-- The alert that a step pushes through a ticket of a call, with the worker that pushes it. -/
def pushedBy (call : Nat) (b : Barrier) : BarrierStep → List (Nat × Alert)
  | .push worker alert =>
    if b.workers[worker]?.bind (·.current) = some call then [(worker, alert)] else []
  | _ => []

/-- The alerts that steps push through the tickets of a call, in their order, with the workers that
push them. -/
def pushes (call : Nat) : List BarrierStep → Barrier → List (Nat × Alert)
  | [], _ => []
  | s :: rest, b =>
    b.pushedBy call s ++
      match b.step s with
      | some next => pushes call rest next
      | none => []

/-- A call's ticket goes into the queue of a worker. -/
def handedOver (call worker : Nat) (b : Barrier) : Barrier :=
  (b.changeCall call fun c => { c with unhanded := c.unhanded.erase worker }).changeWorker worker
    fun w => { w with queue := w.queue ++ [call] }

/-- A worker pushes an alert through a call's ticket. -/
def pushedOn (call worker : Nat) (alert : Alert) (b : Barrier) : Barrier :=
  (b.changeWorker worker fun w => { w with hasPushed := true }).changeCall call
    fun c => { c with pushed := c.pushed ++ [alert] }

/-! ## Changes of one call or one worker -/

section Changes

variable {b : Barrier} {number call worker : Nat} {w : Mailbox}

theorem getElem?_changeCall (number call : Nat) (f : Call → Call) (b : Barrier) :
    (b.changeCall number f).calls[call]? =
      if number = call then b.calls[call]?.map f else b.calls[call]? := by
  unfold changeCall
  rw [List.getElem?_modify]
  split <;> simp

theorem length_calls_changeCall (number : Nat) (f : Call → Call) (b : Barrier) :
    (b.changeCall number f).calls.length = b.calls.length :=
  List.length_modify ..

theorem count_flatMap_modify {workers : List Mailbox} (found : workers[number]? = some w)
    (f : Mailbox → Mailbox) (call : Nat) :
    ((workers.modify number f).flatMap Mailbox.tickets).count call + w.tickets.count call =
      (workers.flatMap Mailbox.tickets).count call + (f w).tickets.count call := by
  induction workers generalizing number with
  | nil => cases found
  | cons first rest ih =>
    cases number with
    | zero =>
      rw [List.getElem?_cons_zero, Option.some.injEq] at found
      subst found
      simp only [List.modify_zero_cons, List.flatMap_cons, List.count_append]
      omega
    | succ number =>
      have hrest := ih (List.getElem?_cons_succ ▸ found)
      simp only [List.modify_succ_cons, List.flatMap_cons, List.count_append]
      omega

/-- What one worker holds afterwards takes the place of what it held before. -/
theorem count_tickets_changeWorker (found : b.workers[number]? = some w) (f : Mailbox → Mailbox)
    (call : Nat) :
    (b.changeWorker number f).tickets.count call + w.tickets.count call =
      b.tickets.count call + (f w).tickets.count call :=
  count_flatMap_modify found f call

theorem chances_eq (found : b.workers[number]? = some w) (call : Nat) :
    b.chances call number = w.chances call := by
  rw [chances, found]
  rfl

theorem chances_changeWorker (found : b.workers[number]? = some w) (f : Mailbox → Mailbox)
    (call worker : Nat) :
    (b.changeWorker number f).chances call worker =
      if number = worker then (f w).chances call else b.chances call worker := by
  unfold chances changeWorker
  rw [List.getElem?_modify]
  split
  · next heq =>
    subst heq
    simp [found]
  · simp

theorem chances_le_count (call worker : Nat) (b : Barrier) :
    b.chances call worker ≤ b.tickets.count call := by
  unfold chances
  cases found : b.workers[worker]? with
  | none => exact Nat.zero_le _
  | some w =>
    have hcount := count_tickets_changeWorker found (fun _ => Mailbox.fresh) call
    have hfresh : Mailbox.fresh.tickets.count call = 0 := rfl
    have hmailbox := Mailbox.chances_le_count_tickets call w
    simp only [Option.map_some, Option.getD_some]
    omega

theorem count_tickets_handedOver (found : b.workers[worker]? = some w) (number call : Nat) :
    (b.handedOver number worker).tickets.count call =
      b.tickets.count call + [number].count call := by
  have hcount := count_tickets_changeWorker found (fun w => { w with queue := w.queue ++ [number] })
    call
  rw [Mailbox.count_tickets_enqueue] at hcount
  change (b.handedOver number worker).tickets.count call + _ = _ at hcount
  omega

theorem chances_handedOver (found : b.workers[worker]? = some w) (number call i : Nat) :
    (b.handedOver number worker).chances call i =
      b.chances call i + if i = worker then [number].count call else 0 := by
  have hchances := chances_changeWorker found (fun w => { w with queue := w.queue ++ [number] })
    call i
  change (b.handedOver number worker).chances call i = _ at hchances
  rw [hchances, Mailbox.chances_enqueue]
  by_cases hi : i = worker
  · subst hi
    rw [if_pos rfl, if_pos rfl, chances_eq found]
  · rw [if_neg hi, if_neg (Ne.symm hi), Nat.add_zero]

theorem count_tickets_pushedOn (found : b.workers[worker]? = some w) (number call : Nat)
    (alert : Alert) :
    (b.pushedOn number worker alert).tickets.count call = b.tickets.count call := by
  have hcount := count_tickets_changeWorker found (fun w => { w with hasPushed := true }) call
  change (b.pushedOn number worker alert).tickets.count call + _ =
    _ + w.tickets.count call at hcount
  omega

theorem chances_pushedOn (found : b.workers[worker]? = some w) (current : w.current = some number)
    (fresh : w.hasPushed = false) (alert : Alert) (call i : Nat) :
    (b.pushedOn number worker alert).chances call i +
      (if i = worker then [number].count call else 0) = b.chances call i := by
  have hchances := chances_changeWorker found (fun w => { w with hasPushed := true }) call i
  change (b.pushedOn number worker alert).chances call i = _ at hchances
  rw [hchances]
  by_cases hi : i = worker
  · subst hi
    rw [if_pos rfl, if_pos rfl, chances_eq found, Mailbox.chances_pushed current fresh]
  · rw [if_neg hi, if_neg (Ne.symm hi), Nat.add_zero]

end Changes

/-! ## What a step takes and what it does -/

section Steps

variable {b b' : Barrier} {call worker : Nat}

theorem of_hand (next : b.hand call worker = some b') :
    ∃ (c : Call) (w : Mailbox), b.calls[call]? = some c ∧ b.workers[worker]? = some w ∧
      worker ∈ c.unhanded ∧
      b' = if w.exited then
          (b.changeCall call fun c => { c with unhanded := c.unhanded.erase worker }).changeCall
            call Call.dropTicket
        else b.handedOver call worker := by
  unfold hand at next
  split at next
  · next c w found here =>
    split at next
    · next possible => exact ⟨c, w, found, here, possible.2, (Option.some.inj next).symm⟩
    · cases next
  · cases next

theorem of_take (next : b.take worker = some b') :
    ∃ number queue pushed, b.workers[worker]? = some ⟨number :: queue, none, pushed, false⟩ ∧
      b' = b.changeWorker worker fun _ => ⟨queue, some number, false, false⟩ := by
  unfold take at next
  split at next
  · next number queue pushed here =>
    exact ⟨number, queue, pushed, here, (Option.some.inj next).symm⟩
  · cases next

theorem of_push {alert : Alert} (next : b.push worker alert = some b') :
    ∃ queue number, b.workers[worker]? = some ⟨queue, some number, false, false⟩ ∧
      b' = b.pushedOn number worker alert := by
  unfold push at next
  split at next
  · next queue number here => exact ⟨queue, number, here, (Option.some.inj next).symm⟩
  · cases next

theorem of_drop (next : b.drop worker = some b') :
    ∃ queue number pushed, b.workers[worker]? = some ⟨queue, some number, pushed, false⟩ ∧
      b' = (b.changeWorker worker fun _ => ⟨queue, none, false, false⟩).changeCall number
        Call.dropTicket := by
  unfold drop at next
  split at next
  · next queue number pushed here =>
    exact ⟨queue, number, pushed, here, (Option.some.inj next).symm⟩
  · cases next

theorem of_exit (next : b.exit worker = some b') :
    ∃ w, b.workers[worker]? = some w ∧
      b' = (b.changeWorker worker fun _ => ⟨[], none, false, true⟩).dropAll w.tickets := by
  unfold exit at next
  split at next
  · next queue current pushed here =>
    exact ⟨⟨queue, current, pushed, false⟩, here, (Option.some.inj next).symm⟩
  · cases next

theorem of_wait (next : b.wait call = some b') :
    ∃ c, b.calls[call]? = some c ∧ c.phase = .handing ∧ c.unhanded = [] ∧
      b' = b.changeCall call fun c =>
        if c.missing = 0 then c.finish else { c with phase := .waiting } := by
  unfold wait at next
  split at next
  · next c found =>
    split at next
    · next possible =>
      exact ⟨c, found, possible.1, possible.2, (Option.some.inj next).symm⟩
    · cases next
  · cases next

theorem of_wake (next : b.wake call = some b') :
    ∃ c, b.calls[call]? = some c ∧ c.phase = .waiting ∧ c.permit = true ∧
      b' = b.changeCall call Call.finish := by
  unfold wake at next
  split at next
  · next c found =>
    split at next
    · next possible =>
      exact ⟨c, found, possible.1, possible.2, (Option.some.inj next).symm⟩
    · cases next
  · cases next

theorem of_giveUp (next : b.giveUp call = some b') :
    ∃ c, b.calls[call]? = some c ∧ c.phase = .waiting ∧
      b' = b.changeCall call Call.abandon := by
  unfold giveUp at next
  split at next
  · next c found =>
    split at next
    · next possible => exact ⟨c, found, possible, (Option.some.inj next).symm⟩
    · cases next
  · cases next

end Steps

/-! ## Nothing is missing again -/

/-- Each call is still there, with as many missing tickets or fewer. -/
def Advances (b b' : Barrier) : Prop :=
  ∀ (call : Nat) (c : Call), b.calls[call]? = some c →
    ∃ c' : Call, b'.calls[call]? = some c' ∧ c'.missing ≤ c.missing

namespace Advances

variable {b b' b'' : Barrier}

theorem refl (b : Barrier) : b.Advances b := fun _ c found => ⟨c, found, Int.le_refl _⟩

theorem trans (first : b.Advances b') (second : b'.Advances b'') : b.Advances b'' := by
  intro call c found
  obtain ⟨c', found', hle⟩ := first call c found
  obtain ⟨c'', found'', hle'⟩ := second call c' found'
  exact ⟨c'', found'', Int.le_trans hle' hle⟩

theorem changeCall (number : Nat) (f : Call → Call) (fewer : ∀ c, (f c).missing ≤ c.missing)
    (b : Barrier) : b.Advances (b.changeCall number f) := by
  intro call c found
  rw [getElem?_changeCall, found]
  split
  · exact ⟨f c, rfl, fewer c⟩
  · exact ⟨c, rfl, Int.le_refl _⟩

theorem dropTicket (number : Nat) (b : Barrier) :
    b.Advances (b.changeCall number Call.dropTicket) :=
  changeCall number _ (fun c => by simp only [Call.dropTicket]; omega) b

theorem dropAll (tickets : List Nat) (b : Barrier) : b.Advances (b.dropAll tickets) := by
  unfold Barrier.dropAll
  induction tickets generalizing b with
  | nil => exact refl b
  | cons number rest ih => exact (dropTicket number b).trans (ih _)

/-- No step gives a call more to wait for. -/
theorem step {s : BarrierStep} (next : b.step s = some b') : b.Advances b' := by
  cases s with
  | hire =>
    cases next
    exact refl b
  | call workers =>
    simp only [Barrier.step] at next
    split at next
    · cases next
      intro call c found
      have hlt := (List.getElem?_eq_some_iff.mp found).1
      exact ⟨c, (List.getElem?_append_left hlt).trans found, Int.le_refl _⟩
    · cases next
  | hand call worker =>
    obtain ⟨c, w, -, -, -, rfl⟩ := of_hand next
    have hhanded := changeCall call (fun c => { c with unhanded := c.unhanded.erase worker })
      (fun _ => Int.le_refl _) b
    split
    · exact hhanded.trans (dropTicket call _)
    · exact hhanded
  | take worker =>
    obtain ⟨-, -, -, -, rfl⟩ := of_take next
    exact refl b
  | push worker alert =>
    obtain ⟨-, number, -, rfl⟩ := of_push next
    exact changeCall number (fun c => { c with pushed := c.pushed ++ [alert] })
      (fun _ => Int.le_refl _) (b.changeWorker worker _)
  | drop worker =>
    obtain ⟨-, number, -, -, rfl⟩ := of_drop next
    exact dropTicket number (b.changeWorker worker _)
  | exit worker =>
    obtain ⟨w, -, rfl⟩ := of_exit next
    exact dropAll w.tickets (b.changeWorker worker _)
  | wait call =>
    obtain ⟨-, -, -, -, rfl⟩ := of_wait next
    refine changeCall call _ (fun c => ?_) b
    split <;> exact Int.le_refl _
  | wake call =>
    obtain ⟨-, -, -, -, rfl⟩ := of_wake next
    exact changeCall call Call.finish (fun _ => Int.le_refl _) b
  | giveUp call =>
    obtain ⟨-, -, -, rfl⟩ := of_giveUp next
    exact changeCall call Call.abandon (fun _ => Int.le_refl _) b

theorem run {steps : List BarrierStep} (ran : b.run steps = some b') : b.Advances b' := by
  induction steps generalizing b with
  | nil =>
    cases ran
    exact refl _
  | cons s rest ih =>
    obtain ⟨middle, next, later⟩ := Option.bind_eq_some_iff.mp ran
    exact (step next).trans (ih later)

end Advances

end Barrier

end VesselWatch

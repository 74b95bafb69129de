/-
  Engine/Barrier.lean --- calls that evaluate events at the same time.

  WHAT THIS FILE FIXES.  Several calls may have events evaluated at once.  Each of
  them hands one ticket to every worker, waits until all its tickets have been
  dropped, and returns the alerts that were pushed through them.  A ticket is
  dropped when its worker is done with the event; when the worker exits, with
  everything that waits in its queue; or at once, when the worker has exited
  already.

  A RUN is a list of steps, each of which is one thing that one party does.  `step`
  says which steps are possible; nothing says in which order they come.  What is
  missing from a call is counted by an integer, so that a drop too many would be
  seen.  The last drop leaves a permit, which the call takes when it waits, whether
  it began to wait before or after.  A call that waits too long gives up and
  returns what it has by then.
-/
import VesselWatch.Alert

set_option autoImplicit false

namespace VesselWatch

/-- What a call is doing. -/
inductive CallPhase where
  /-- it hands out its tickets -/
  | handing
  /-- it waits for the permit -/
  | waiting
  /-- it has returned these alerts -/
  | returned (alerts : List Alert)
  /-- it has given up waiting, and returned these alerts -/
  | gaveUp (alerts : List Alert)
  deriving DecidableEq, Repr, Inhabited

/-- A call that has an event evaluated. -/
structure Call where
  /-- the workers that have not been handed their ticket -/
  unhanded : List Nat
  /-- how many tickets have not been dropped -/
  missing : Int
  /-- the alerts that were pushed, in their order -/
  pushed : List Alert
  /-- the last ticket has been dropped -/
  permit : Bool
  /-- what it is doing -/
  phase : CallPhase
  deriving DecidableEq, Repr, Inhabited

/-- A worker, as far as tickets go.  Calls and workers are known by their numbers. -/
structure Mailbox where
  /-- the calls whose tickets wait, in the order of their arrival -/
  queue : List Nat
  /-- the call whose event is being evaluated -/
  current : Option Nat
  /-- an alert has been pushed for that event -/
  hasPushed : Bool
  /-- it takes no more tickets -/
  exited : Bool
  deriving DecidableEq, Repr, Inhabited

/-- All calls and workers. -/
structure Barrier where
  /-- the calls, in the order in which they began -/
  calls : List Call
  /-- the workers, in the order in which they were hired -/
  workers : List Mailbox
  deriving DecidableEq, Repr, Inhabited

/-- One thing that one party does. -/
inductive BarrierStep where
  /-- a new worker begins -/
  | hire
  /-- a new call begins, with one ticket for each of some workers -/
  | call (workers : List Nat)
  /-- a call hands a worker its ticket -/
  | hand (call worker : Nat)
  /-- a worker takes the next ticket from its queue -/
  | take (worker : Nat)
  /-- a worker pushes an alert for the event at hand -/
  | push (worker : Nat) (alert : Alert)
  /-- a worker is done with the event at hand -/
  | drop (worker : Nat)
  | exit (worker : Nat)
  /-- a call that has handed out its tickets begins to wait -/
  | wait (call : Nat)
  /-- a call that waits takes the permit -/
  | wake (call : Nat)
  /-- a call that waits gives up -/
  | giveUp (call : Nat)
  deriving DecidableEq, Repr, Inhabited

namespace Call

/-- A call with one ticket for each of some workers. -/
def fresh (workers : List Nat) : Call := ⟨workers, workers.length, [], false, .handing⟩

/-- One ticket is dropped. -/
def dropTicket (c : Call) : Call :=
  { c with missing := c.missing - 1, permit := c.permit || c.missing == 1 }

/-- The call returns what has been pushed. -/
def finish (c : Call) : Call :=
  { c with pushed := [], permit := false, phase := .returned c.pushed }

/-- The call gives up and returns what has been pushed so far. -/
def abandon (c : Call) : Call := { c with pushed := [], phase := .gaveUp c.pushed }

end Call

/-- A worker that has been handed nothing. -/
def Mailbox.fresh : Mailbox := ⟨[], none, false, false⟩

namespace Barrier

/-- No calls and no workers. -/
def empty : Barrier := ⟨[], []⟩

/-- Changes one call. -/
def changeCall (number : Nat) (f : Call → Call) (b : Barrier) : Barrier :=
  { b with calls := b.calls.modify number f }

/-- Changes one worker. -/
def changeWorker (number : Nat) (f : Mailbox → Mailbox) (b : Barrier) : Barrier :=
  { b with workers := b.workers.modify number f }

/-- Drops one ticket of each call in a list. -/
def dropAll (calls : List Nat) (b : Barrier) : Barrier :=
  calls.foldl (fun b call => b.changeCall call Call.dropTicket) b

/-- Hands the worker its ticket of a call.  One that has exited gives it back. -/
def hand (call worker : Nat) (b : Barrier) : Option Barrier :=
  match b.calls[call]?, b.workers[worker]? with
  | some c, some w =>
    if c.phase = .handing ∧ worker ∈ c.unhanded then
      let b := b.changeCall call fun c => { c with unhanded := c.unhanded.erase worker }
      some <|
        if w.exited then b.changeCall call Call.dropTicket
        else b.changeWorker worker fun w => { w with queue := w.queue ++ [call] }
    else none
  | _, _ => none

/-- The worker takes the next ticket from its queue. -/
def take (worker : Nat) (b : Barrier) : Option Barrier :=
  match b.workers[worker]? with
  | some ⟨call :: queue, none, _, false⟩ =>
    some (b.changeWorker worker fun _ => ⟨queue, some call, false, false⟩)
  | _ => none

/-- The worker pushes an alert, the only one for the event at hand. -/
def push (worker : Nat) (alert : Alert) (b : Barrier) : Option Barrier :=
  match b.workers[worker]? with
  | some ⟨_, some call, false, false⟩ =>
    let b := b.changeWorker worker fun w => { w with hasPushed := true }
    some (b.changeCall call fun c => { c with pushed := c.pushed ++ [alert] })
  | _ => none

/-- The worker is done with the event at hand. -/
def drop (worker : Nat) (b : Barrier) : Option Barrier :=
  match b.workers[worker]? with
  | some ⟨queue, some call, _, false⟩ =>
    let b := b.changeWorker worker fun _ => ⟨queue, none, false, false⟩
    some (b.changeCall call Call.dropTicket)
  | _ => none

/-- The worker exits and drops every ticket it holds. -/
def exit (worker : Nat) (b : Barrier) : Option Barrier :=
  match b.workers[worker]? with
  | some ⟨queue, current, _, false⟩ =>
    let b := b.changeWorker worker fun _ => ⟨[], none, false, true⟩
    some (b.dropAll (current.toList ++ queue))
  | _ => none

/-- The call begins to wait.  When nothing is missing it returns at once. -/
def wait (call : Nat) (b : Barrier) : Option Barrier :=
  match b.calls[call]? with
  | some c =>
    if c.phase = .handing ∧ c.unhanded = [] then
      some <| b.changeCall call fun c =>
        if c.missing = 0 then c.finish else { c with phase := .waiting }
    else none
  | none => none

/-- The call that waits takes the permit and returns. -/
def wake (call : Nat) (b : Barrier) : Option Barrier :=
  match b.calls[call]? with
  | some c =>
    if c.phase = .waiting ∧ c.permit then some (b.changeCall call Call.finish) else none
  | none => none

/-- The call that waits gives up.  Its tickets are still to be dropped. -/
def giveUp (call : Nat) (b : Barrier) : Option Barrier :=
  match b.calls[call]? with
  | some c => if c.phase = .waiting then some (b.changeCall call Call.abandon) else none
  | none => none

/-- Takes one step, if it is possible. -/
def step (b : Barrier) : BarrierStep → Option Barrier
  | .hire => some { b with workers := b.workers ++ [Mailbox.fresh] }
  | .call workers =>
    if workers.Nodup ∧ ∀ w ∈ workers, w < b.workers.length then
      some { b with calls := b.calls ++ [Call.fresh workers] }
    else none
  | .hand call worker => b.hand call worker
  | .take worker => b.take worker
  | .push worker alert => b.push worker alert
  | .drop worker => b.drop worker
  | .exit worker => b.exit worker
  | .wait call => b.wait call
  | .wake call => b.wake call
  | .giveUp call => b.giveUp call

/-- Takes step after step; nothing when one of them is impossible. -/
def run (steps : List BarrierStep) (b : Barrier) : Option Barrier := steps.foldlM step b

end Barrier

end VesselWatch

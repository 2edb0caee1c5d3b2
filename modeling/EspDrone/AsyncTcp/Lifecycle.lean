import EspDrone.AsyncTcp.Client
import Mathlib.Data.List.Count

set_option autoImplicit false

namespace EspDrone.AsyncTcp

inductive Call where
  | abort (reported : Bool)
  | close (now : Bool) (answer : Err)
  | ackLater
  | ack (len : Nat)
  | write (answer : Answer) (data : List UInt8)
  | setRxTimeout (timeout : UInt32)
  | setAckTimeout (timeout : UInt32)
  | delete (answer : Err)
  deriving DecidableEq, Repr

inductive Callback where
  | connected (pcb : Pcb) (now : UInt32) (calls : List Call)
  | connectedError (err : Err)
  | sent (len now : UInt32) (calls : List Call)
  | recv (payloads : List (List UInt8 × List Call)) (now : UInt32)
  | recvFin (answer : Err)
  | recvError (err : Err)
  | poll (now : UInt32) (answer : Err) (calls : List Call)
  | error (err : Err)
  deriving DecidableEq, Repr

inductive LifeEvent where
  | call (call : Call)
  | callback (callback : Callback)
  deriving DecidableEq, Repr

namespace Client

def perform (client : Client) : Call → Client
  | .abort reported => client.abort reported
  | .close now answer => client.close now answer
  | .ackLater => client.ackLater
  | .ack len => client.ack len
  | .write answer data => (client.write answer data).1
  | .setRxTimeout timeout => client.setRxTimeout timeout
  | .setAckTimeout timeout => client.setAckTimeout timeout
  | .delete answer =>
      let closed := client.closeNow answer
      { closed with tracker := closed.tracker.clearClient }

def performAll (client : Client) (calls : List Call) : Client := calls.foldl perform client

-- The data callback makes the calls that come with each buffer.
def scripted : Host (Client × List (List Call)) where
  client := Prod.fst
  setClient state client := (client, state.2)
  onData state _ := (state.1.performAll (state.2.headD []), state.2.tail)

def receive (client : Client) : Callback → Client
  | .connected pcb now calls => (client.connectedOk pcb now).performAll calls
  | .connectedError err => client.connectedError err
  | .sent len now calls => (client.sent len now).performAll calls
  | .recv payloads now =>
      (recv scripted (client, payloads.map Prod.snd) (payloads.map Prod.fst) now).1
  | .recvFin answer => client.closeNow answer
  | .recvError err => client.recvError err
  | .poll now answer calls => (client.poll now answer).performAll calls
  | .error err => client.sError err

def live : Client × List Err → LifeEvent → Client × List Err
  | (client, returned), .call call => (client.perform call, returned)
  | (client, returned), .callback (.error err) => (client.receive (.error err), returned)
  | (client, returned), .callback callback =>
      let handled := client.receive callback
      let answer := handled.tracker.getCallbackCloseError
      ({ handled with tracker := answer.2 }, returned ++ [answer.1])

def held (client : Client) : Nat := if client.pcb.isSome then 1 else 0

-- An error once recorded stays, and what is given back or held has been obtained.
structure Grows (before after : Client) : Prop where
  errored : before.tracker.errored.isSome → after.tracker.errored.isSome
  blocks : after.released + after.held + before.attached ≤
    before.released + before.held + after.attached

theorem Grows.refl (client : Client) : Grows client client := ⟨id, Nat.le_refl _⟩

theorem Grows.trans {first second third : Client} (early : Grows first second)
    (late : Grows second third) : Grows first third where
  errored := late.errored ∘ early.errored
  blocks := by
    have a := early.blocks
    have b := late.blocks
    omega

-- A client that differs in the tracker and in fields the ledger does not read.
theorem Grows.of_eq {before after : Client}
    (errored : before.tracker.errored.isSome → after.tracker.errored.isSome)
    (pcb : after.pcb.isSome → before.pcb.isSome) (released : after.released = before.released)
    (attached : after.attached = before.attached) : Grows before after where
  errored := errored
  blocks := by
    have fewer : after.held ≤ before.held := by
      unfold held
      by_cases some' : after.pcb.isSome = true
      · simp [some', pcb some']
      · simp [some']
    omega

theorem Grows.blocks_initial {pcb : Option Pcb} {now : UInt32} {deletes : Bool} {client : Client}
    (grows : Grows (initial pcb now deletes) client) :
    client.released + client.held ≤ client.attached := by
  have obtained : (initial pcb now deletes).attached = (initial pcb now deletes).held := rfl
  have kept : (initial pcb now deletes).released = 0 := rfl
  have blocks := grows.blocks
  omega

@[simp] theorem setCloseError_errored (tracker : ACErrorTracker) (err : Err) :
    (tracker.setCloseError err).errored = tracker.errored := by
  unfold ACErrorTracker.setCloseError
  split <;> rfl

theorem setErrored_errored (tracker : ACErrorTracker) (event : ErrorEvent) :
    (tracker.setErrored event).errored.isSome := by
  unfold ACErrorTracker.setErrored
  cases recorded : tracker.errored <;> simp [recorded]

theorem discard_grows (client : Client) : Grows client client.discard := by
  unfold discard
  split
  · exact .of_eq id id rfl rfl
  · exact .refl client

theorem error_grows (client : Client) : Grows client client.error := by
  have dropped : Grows client { client with pcb := none } := .of_eq id (by simp) rfl rfl
  exact dropped.trans (discard_grows _)

theorem recorded_grows (client : Client) (err : Err) (event : ErrorEvent) :
    Grows client { client with
      tracker := (client.tracker.setCloseError err).setErrored event } :=
  .of_eq (fun _ => setErrored_errored _ event) id rfl rfl

theorem sError_grows (client : Client) (err : Err) : Grows client (client.sError err) :=
  (recorded_grows client err .errorCb).trans (error_grows _)

theorem release_grows (client after : Client) (some' : client.pcb.isSome)
    (errored : client.tracker.errored.isSome → after.tracker.errored.isSome)
    (pcb : after.pcb = none) (released : after.released = client.released + 1)
    (attached : after.attached = client.attached) : Grows client after where
  errored := errored
  blocks := by simp [held, some', pcb, released, attached]

theorem discard_counts (client : Client) :
    client.discard.released = client.released ∧ client.discard.attached = client.attached := by
  unfold discard
  split <;> exact ⟨rfl, rfl⟩

theorem abort_grows (client : Client) (reported : Bool) : Grows client (client.abort reported) := by
  cases block : client.pcb with
  | none => simpa [abort, block] using Grows.refl client
  | some pcb =>
    have some' : client.pcb.isSome := by simp [block]
    by_cases told : reported = true
    next =>
      have counts := discard_counts
        { client with
          released := client.released + 1
          aborted := client.aborted ++ [true]
          tracker := (client.tracker.setCloseError .abrt).setErrored .errorCb
          pcb := none }
      have errored := (sError_grows { client with
        released := client.released + 1
        aborted := client.aborted ++ [true] } .abrt).errored
      simp only [abort, block, told, if_true]
      exact release_grows client _ some'
        (fun before => by simp only [setCloseError_errored]; exact errored before) rfl
        counts.1 counts.2
    next =>
      simp only [abort, block, told, Bool.false_eq_true, if_false]
      exact release_grows client _ some' (by simp) rfl rfl rfl

theorem closeNow_grows (client : Client) (answer : Err) :
    Grows client (client.closeNow answer) := by
  cases block : client.pcb with
  | none => simpa [closeNow, block] using Grows.refl client
  | some pcb =>
    simp only [closeNow, block]
    split
    · have given : Grows client { client with
          pcb := none
          released := client.released + 1
          tracker := client.tracker.setCloseError .ok } :=
        release_grows client _ (by simp [block]) (by simp) rfl rfl rfl
      exact given.trans (discard_grows _)
    · exact (abort_grows client false).trans (discard_grows _)

theorem close_grows (client : Client) (now : Bool) (answer : Err) :
    Grows client (client.close now answer) := by
  have opened : Grows client (if client.pcb.isSome then
      { client with recved := client.recved + client.rxAckLen } else client) := by
    split
    · exact .of_eq id id rfl rfl
    · exact .refl client
  unfold close
  simp only []
  split
  · exact opened.trans (closeNow_grows _ answer)
  · exact opened.trans (.of_eq id id rfl rfl)

theorem write_grows (client : Client) (answer : Answer) (data : List UInt8) :
    Grows client (client.write answer data).1 := by
  have added : Grows client (client.add answer data).1 := by
    unfold add
    split
    next => exact .refl client
    next pcb block =>
      split
      · exact .refl client
      · simp only []
        split
        · exact .of_eq id (by simp [block]) rfl rfl
        · exact .refl client
  have sent (other : Client) : Grows other (other.send answer).1 := by
    unfold send
    split <;> exact .of_eq id id rfl rfl
  unfold write
  simp only []
  split
  · exact added
  · split <;> exact added.trans (sent _)

theorem perform_grows (client : Client) (call : Call) : Grows client (client.perform call) := by
  cases call with
  | abort reported => exact abort_grows client reported
  | close now answer => exact close_grows client now answer
  | ackLater => exact .of_eq id id rfl rfl
  | ack len => exact .of_eq id id rfl rfl
  | write answer data => exact write_grows client answer data
  | setRxTimeout timeout => exact .of_eq id id rfl rfl
  | setAckTimeout timeout => exact .of_eq id id rfl rfl
  | delete answer => exact (closeNow_grows client answer).trans (.of_eq id id rfl rfl)

theorem performAll_grows (client : Client) (calls : List Call) :
    Grows client (client.performAll calls) := by
  induction calls generalizing client with
  | nil => exact .refl client
  | cons call rest ih => exact (perform_grows client call).trans (ih (client.perform call))

theorem credit_grows (client : Client) (len : Nat) : Grows client (client.credit len) := by
  unfold credit
  split <;> exact .of_eq id id rfl rfl

theorem recvPbufs_grows (state : Client × List (List Call)) (payloads : List (List UInt8)) :
    Grows state.1 (recvPbufs scripted state payloads).1 := by
  induction payloads generalizing state with
  | nil => exact .refl state.1
  | cons payload rest ih =>
    unfold recvPbufs
    split
    · exact .refl state.1
    · refine Grows.trans ?_ (ih _)
      have opened : Grows state.1 { state.1 with ackPcb := true } := .of_eq id id rfl rfl
      have handled := opened.trans (performAll_grows _ (state.2.headD []))
      simp only []
      split
      · exact handled.trans (credit_grows _ payload.length)
      · exact handled

theorem poll_grows (client : Client) (now : UInt32) (answer : Err) :
    Grows client (client.poll now answer) := by
  have tracked : Grows client { client with tracker := client.tracker.setCloseError .ok } :=
    .of_eq (by simp) id rfl rfl
  unfold poll
  simp only []
  split
  · have asked : Grows client { client with
        tracker := client.tracker.setCloseError .ok
        closePcb := false } := .of_eq (by simp) id rfl rfl
    exact asked.trans (closeNow_grows _ answer)
  · split
    · exact tracked.trans (.of_eq id id rfl rfl)
    · split
      · exact tracked.trans (closeNow_grows _ answer)
      · exact tracked

theorem receive_grows (client : Client) (callback : Callback) :
    Grows client (client.receive callback) := by
  cases callback with
  | connected pcb now calls =>
    have attached : Grows client (client.connectedOk pcb now) :=
      ⟨id, by simp only [connectedOk, held, Option.isSome_some, if_true]; omega⟩
    exact attached.trans (performAll_grows _ calls)
  | connectedError err =>
    have recorded := recorded_grows client err .connectedCb
    have dropped : Grows _ { client with
        tracker := (client.tracker.setCloseError err).setErrored .connectedCb
        pcb := none } := recorded.trans (.of_eq id (by simp) rfl rfl)
    exact dropped.trans (error_grows _)
  | sent len now calls =>
    have counted : Grows client (client.sent len now) := by
      unfold sent
      by_cases settled : client.txUnackedLen - len = 0 <;>
        simp only [settled, if_true, if_false] <;> exact .of_eq (by simp) id rfl rfl
    exact counted.trans (performAll_grows _ calls)
  | recv payloads now =>
    have arrived : Grows client { client with
        rxLastPacket := now
        tracker := client.tracker.setCloseError .ok } := .of_eq (by simp) id rfl rfl
    exact arrived.trans (recvPbufs_grows (_, payloads.map Prod.snd) _)
  | recvFin answer => exact closeNow_grows client answer
  | recvError err =>
    have recorded := recorded_grows client err .recvCb
    have dropped : Grows _ { client with
        tracker := (client.tracker.setCloseError err).setErrored .recvCb
        pcb := none } := recorded.trans (.of_eq id (by simp) rfl rfl)
    exact dropped.trans (error_grows _)
  | poll now answer calls => exact (poll_grows client now answer).trans (performAll_grows _ calls)
  | error err => exact sError_grows client err

theorem getCallbackCloseError_cases (tracker : ACErrorTracker) :
    (tracker.getCallbackCloseError.1 ≠ .abrt ∧ tracker.getCallbackCloseError.2 = tracker) ∨
      (tracker.errored = none ∧ tracker.getCallbackCloseError.1 = .abrt ∧
        tracker.getCallbackCloseError.2.errored.isSome) := by
  unfold ACErrorTracker.getCallbackCloseError
  split
  next => exact Or.inl ⟨by simp, rfl⟩
  next fresh =>
    split
    next => exact Or.inr ⟨by simpa using fresh, rfl, setErrored_errored _ _⟩
    next other => exact Or.inl ⟨other, rfl⟩

structure Told (start : Client) (state : Client × List Err) : Prop where
  grows : Grows start state.1
  once : state.2.count .abrt ≤ if state.1.tracker.errored.isSome then 1 else 0

theorem Told.later {start before after : Client} {returned : List Err}
    (told : Told start (before, returned)) (grows : Grows before after) :
    Told start (after, returned) where
  grows := told.grows.trans grows
  once := by
    have once := told.once
    by_cases recorded : before.tracker.errored.isSome = true
    · simpa [recorded, grows.errored recorded] using once
    · simp only [recorded, if_false, Bool.false_eq_true] at once
      exact Nat.le_trans once (Nat.zero_le _)

theorem live_told (start : Client) (state : Client × List Err) (event : LifeEvent)
    (told : Told start state) : Told start (live state event) := by
  obtain ⟨client, returned⟩ := state
  have answered (callback : Callback) :
      Told start ({ client.receive callback with
          tracker := (client.receive callback).tracker.getCallbackCloseError.2 },
        returned ++ [(client.receive callback).tracker.getCallbackCloseError.1]) := by
    have later := told.later (receive_grows client callback)
    generalize client.receive callback = handled at later ⊢
    rcases getCallbackCloseError_cases handled.tracker with
      ⟨other, same⟩ | ⟨fresh, abrt, recorded⟩
    · rw [same]
      exact ⟨later.grows, by simpa [List.count_append, other] using later.once⟩
    · have earlier := later.once
      simp only [fresh, Option.isSome_none, Bool.false_eq_true, if_false] at earlier
      exact ⟨later.grows.trans (.of_eq (fun _ => recorded) id rfl rfl), by
        simp only [abrt, List.count_append, List.count_singleton_self, recorded, if_true]
        omega⟩
  cases event with
  | call call => exact told.later (perform_grows client call)
  | callback callback =>
    cases callback with
    | error err => exact told.later (receive_grows client (.error err))
    | connected | connectedError | sent | recv | recvFin | recvError | poll => exact answered _

/-- In any order of calls, callbacks and calls made from callbacks, lwIP gets ERR_ABRT at most
once, and no more control blocks are given back to it than the client has obtained. -/
theorem abrt_returned_once (pcb : Option Pcb) (now : UInt32) (deletes : Bool)
    (events : List LifeEvent) :
    (events.foldl live (initial pcb now deletes, [])).2.count .abrt ≤ 1 ∧
      (events.foldl live (initial pcb now deletes, [])).1.released ≤
        (events.foldl live (initial pcb now deletes, [])).1.attached := by
  have run : ∀ (events : List LifeEvent) state, Told (initial pcb now deletes) state →
      Told (initial pcb now deletes) (events.foldl live state) := by
    intro events
    induction events with
    | nil => exact fun _ told => told
    | cons event rest ih => exact fun state told => ih _ (live_told _ state event told)
  have told := run events (initial pcb now deletes, []) ⟨Grows.refl _, by simp⟩
  constructor
  next => exact Nat.le_trans told.once (by split <;> omega)
  next =>
    have blocks := told.grows.blocks_initial
    omega

end Client

end EspDrone.AsyncTcp

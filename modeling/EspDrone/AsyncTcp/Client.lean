set_option autoImplicit false

namespace EspDrone.AsyncTcp

inductive Err where
  | ok
  | abrt
  | other (code : Int)
  deriving DecidableEq, Repr

-- enum error_events; `none` in the tracker is EE_OK.
inductive ErrorEvent where
  | aborted
  | errorCb
  | connectedCb
  | recvCb
  deriving DecidableEq, Repr

structure ACErrorTracker where
  hasClient : Bool
  closeError : Err
  errored : Option ErrorEvent
  deriving DecidableEq, Repr

namespace ACErrorTracker

def setCloseError (tracker : ACErrorTracker) (err : Err) : ACErrorTracker :=
  if tracker.errored.isNone then { tracker with closeError := err } else tracker

def setErrored (tracker : ACErrorTracker) (event : ErrorEvent) : ACErrorTracker :=
  if tracker.errored.isNone then { tracker with errored := some event } else tracker

def clearClient (tracker : ACErrorTracker) : ACErrorTracker := { tracker with hasClient := false }

def getCallbackCloseError (tracker : ACErrorTracker) : Err × ACErrorTracker :=
  if tracker.errored.isSome then (.ok, tracker)
  else if tracker.closeError = .abrt then (.abrt, tracker.setErrored .aborted)
  else (tracker.closeError, tracker)

end ACErrorTracker

structure Pcb where
  state : Nat
  sndbuf : UInt16
  deriving DecidableEq, Repr

-- What lwIP answers to tcp_write and tcp_output, and the clock.
structure Answer where
  written : Err
  output : Err
  now : UInt32
  deriving DecidableEq, Repr

-- `wire`, `unsent`, `recved`, `attached` and `released` record the calls to lwIP: the bytes
-- tcp_write took, those of them for which tcp_output failed, the bytes given to tcp_recved,
-- the control blocks obtained and those given back by tcp_close or tcp_abort; `aborted` says of
-- each tcp_abort whether it called the error callback.
-- `deletes` says that the disconnect callback deletes the client.
structure Client where
  pcb : Option Pcb
  pcbBusy : Bool
  pcbSentAt : UInt32
  closePcb : Bool
  ackPcb : Bool
  txUnackedLen : UInt32
  txAckedLen : UInt32
  txUnsentLen : UInt32
  rxAckLen : Nat
  rxLastPacket : UInt32
  rxSinceTimeout : UInt32
  ackTimeout : UInt32
  tracker : ACErrorTracker
  deletes : Bool
  wire : List UInt8
  unsent : Nat
  recved : Nat
  attached : Nat
  released : Nat
  aborted : List Bool
  deriving DecidableEq, Repr

namespace Client

-- AsyncClient(pcb) with ASYNC_MAX_ACK_TIME; an outgoing connection starts without a pcb.
def initial (pcb : Option Pcb) (now : UInt32) (deletes : Bool) : Client :=
  { pcb := pcb, pcbBusy := false, pcbSentAt := 0, closePcb := false, ackPcb := true
    txUnackedLen := 0, txAckedLen := 0, txUnsentLen := 0, rxAckLen := 0
    rxLastPacket := if pcb.isSome then now else 0, rxSinceTimeout := 0, ackTimeout := 5000
    tracker := { hasClient := true, closeError := .ok, errored := none }
    deletes := deletes, wire := [], unsent := 0, recved := 0
    attached := if pcb.isSome then 1 else 0, released := 0, aborted := [] }

def connected (client : Client) : Bool := client.pcb.any fun pcb => pcb.state == 4

def space (client : Client) : Nat :=
  match client.pcb with
  | some pcb => if pcb.state == 4 then pcb.sndbuf.toNat else 0
  | none => 0

def canSend (client : Client) : Bool := !client.pcbBusy && decide (0 < client.space)

def add (client : Client) (answer : Answer) (data : List UInt8) : Client × Nat :=
  match client.pcb with
  | none => (client, 0)
  | some pcb =>
      if data.isEmpty || client.space == 0 then (client, 0)
      else
        let willSend := min client.space data.length
        if answer.written = .ok then
          ({ client with
              pcb := some { pcb with sndbuf := pcb.sndbuf - UInt16.ofNat willSend }
              txUnsentLen := client.txUnsentLen + UInt32.ofNat willSend
              wire := client.wire ++ data.take willSend }, willSend)
        else (client, 0)

def send (client : Client) (answer : Answer) : Client × Bool :=
  if answer.output = .ok then
    ({ client with
        pcbBusy := true
        pcbSentAt := answer.now
        txUnackedLen := client.txUnackedLen + client.txUnsentLen
        txUnsentLen := 0 }, true)
  else
    ({ client with
        txUnsentLen := 0
        unsent := client.unsent + client.txUnsentLen.toNat }, false)

def write (client : Client) (answer : Answer) (data : List UInt8) : Client × Nat :=
  let added := client.add answer data
  if added.2 = 0 then (added.1, 0)
  else
    let sent := added.1.send answer
    if sent.2 then (sent.1, added.2) else (sent.1, 0)

def sent (client : Client) (len : UInt32) (now : UInt32) : Client :=
  let counted := { client with
    rxLastPacket := now
    txUnackedLen := client.txUnackedLen - len
    txAckedLen := client.txAckedLen + len }
  if counted.txUnackedLen = 0 then
    { counted with
      pcbBusy := false
      tracker := client.tracker.setCloseError .ok
      txAckedLen := 0 }
  else counted

def discard (client : Client) : Client :=
  if client.deletes then { client with tracker := client.tracker.clearClient } else client

def error (client : Client) : Client := { client with pcb := none }.discard

def sError (client : Client) (err : Err) : Client :=
  { client with tracker := (client.tracker.setCloseError err).setErrored .errorCb }.error

-- `reported` says that tcp_abort calls the error callback, which it does while one is set.
def abort (client : Client) (reported : Bool) : Client :=
  match client.pcb with
  | none => client
  | some _ =>
      let stopped := { client with
        released := client.released + 1
        aborted := client.aborted ++ [reported] }
      let told := if reported then stopped.sError .abrt else stopped
      { told with pcb := none, tracker := told.tracker.setCloseError .abrt }

-- _close, with what tcp_close answers. The callbacks have been cleared before.
def closeNow (client : Client) (answer : Err) : Client :=
  match client.pcb with
  | none => client
  | some _ =>
      if answer = .ok then
        { client with
          pcb := none
          released := client.released + 1
          tracker := client.tracker.setCloseError .ok }.discard
      else (client.abort false).discard

def close (client : Client) (now : Bool) (answer : Err) : Client :=
  let opened := if client.pcb.isSome then
    { client with recved := client.recved + client.rxAckLen } else client
  if now then opened.closeNow answer else { opened with closePcb := true }

def ackLater (client : Client) : Client := { client with ackPcb := false }

def ack (client : Client) (len : Nat) : Client :=
  let acked := min len client.rxAckLen
  { client with recved := client.recved + acked, rxAckLen := client.rxAckLen - acked }

-- After the data callback: credit the window now or leave it to `ack`.
def credit (client : Client) (len : Nat) : Client :=
  if client.ackPcb then { client with recved := client.recved + len }
  else { client with rxAckLen := client.rxAckLen + len }

structure Host (S : Type) where
  client : S → Client
  setClient : S → Client → S
  onData : S → List UInt8 → S

def recvPbufs {S : Type} (host : Host S) : S → List (List UInt8) → S
  | state, [] => state
  | state, payload :: rest =>
      if !(host.client state).tracker.hasClient then state
      else
        let opened := host.setClient state { host.client state with ackPcb := true }
        let handled := host.onData opened payload
        let credited :=
          if (host.client handled).tracker.hasClient then
            host.setClient handled ((host.client handled).credit payload.length)
          else handled
        recvPbufs host credited rest

def recv {S : Type} (host : Host S) (state : S) (payloads : List (List UInt8)) (now : UInt32) : S :=
  let client := host.client state
  recvPbufs host
    (host.setClient state { client with
      rxLastPacket := now
      tracker := client.tracker.setCloseError .ok }) payloads

-- _recv with an error, or without a control block.
def recvError (client : Client) (err : Err) : Client :=
  { client with
    tracker := (client.tracker.setCloseError err).setErrored .recvCb
    pcb := none }.error

def connectedError (client : Client) (err : Err) : Client :=
  { client with
    tracker := (client.tracker.setCloseError err).setErrored .connectedCb
    pcb := none }.error

def connectedOk (client : Client) (pcb : Pcb) (now : UInt32) : Client :=
  { client with
    pcb := some pcb
    pcbBusy := false
    rxLastPacket := now
    attached := client.attached + 1 }

def setRxTimeout (client : Client) (timeout : UInt32) : Client :=
  { client with rxSinceTimeout := timeout }

def setAckTimeout (client : Client) (timeout : UInt32) : Client :=
  { client with ackTimeout := timeout }

def poll (client : Client) (now : UInt32) (answer : Err) : Client :=
  let tracked := { client with tracker := client.tracker.setCloseError .ok }
  if tracked.closePcb then { tracked with closePcb := false }.closeNow answer
  else if tracked.pcbBusy && tracked.ackTimeout != 0 &&
      decide (tracked.ackTimeout ≤ now - tracked.pcbSentAt) then
    { tracked with pcbBusy := false }
  else if tracked.rxSinceTimeout != 0 &&
      decide (tracked.rxSinceTimeout * 1000 ≤ now - tracked.rxLastPacket) then
    tracked.closeNow answer
  else tracked

def timedOut (client : Client) (now : UInt32) : Bool :=
  !client.closePcb && (client.pcbBusy && client.ackTimeout != 0 &&
    decide (client.ackTimeout ≤ now - client.pcbSentAt))

-- _poll of a client whose onTimeout callback closes it.
def pollClosing (client : Client) (now : UInt32) (answer : Err) : Client :=
  if client.timedOut now then (client.poll now answer).close false .ok
  else client.poll now answer

def outgoing (client : Client) : UInt32 × List UInt8 × Nat :=
  (client.txUnsentLen, client.wire, client.unsent)

def window (client : Client) : Nat × Nat := (client.rxAckLen, client.recved)

theorem discard_pcb (client : Client) : client.discard.pcb = client.pcb := by
  unfold discard
  split <;> rfl

@[simp] theorem discard_ledgers (client : Client) :
    client.discard.outgoing = client.outgoing ∧ client.discard.window = client.window := by
  unfold discard
  split <;> exact ⟨rfl, rfl⟩

theorem sError_ledgers (client : Client) (err : Err) :
    (client.sError err).outgoing = client.outgoing ∧
      (client.sError err).window = client.window :=
  discard_ledgers _

theorem abort_ledgers (client : Client) (reported : Bool) :
    (client.abort reported).outgoing = client.outgoing ∧
      (client.abort reported).window = client.window := by
  unfold abort
  split
  next => exact ⟨rfl, rfl⟩
  next =>
    by_cases told : reported = true
    · simp only [told, if_true]
      exact sError_ledgers { client with
        released := client.released + 1
        aborted := client.aborted ++ [true] } .abrt
    · simp only [told, Bool.false_eq_true, if_false]
      exact ⟨rfl, rfl⟩

theorem closeNow_ledgers (client : Client) (answer : Err) :
    (client.closeNow answer).outgoing = client.outgoing ∧
      (client.closeNow answer).window = client.window := by
  unfold closeNow
  split
  next => exact ⟨rfl, rfl⟩
  next =>
    split
    next => exact discard_ledgers _
    next =>
      have discarded := discard_ledgers (client.abort false)
      have aborted := abort_ledgers client false
      exact ⟨discarded.1.trans aborted.1, discarded.2.trans aborted.2⟩

theorem sent_ledgers (client : Client) (len now : UInt32) :
    (client.sent len now).outgoing = client.outgoing ∧
      (client.sent len now).window = client.window := by
  unfold sent
  by_cases settled : client.txUnackedLen - len = 0 <;> simp only [settled, if_true, if_false] <;>
    exact ⟨rfl, rfl⟩

theorem poll_ledgers (client : Client) (now : UInt32) (answer : Err) :
    (client.poll now answer).outgoing = client.outgoing ∧
      (client.poll now answer).window = client.window := by
  unfold poll
  simp only []
  split
  next => exact closeNow_ledgers _ _
  next =>
    split
    next => exact ⟨rfl, rfl⟩
    next =>
      split
      next => exact closeNow_ledgers _ _
      next => exact ⟨rfl, rfl⟩

theorem timedOut_poll_pcb (client : Client) (now : UInt32) (answer : Err)
    (late : client.timedOut now = true) : (client.poll now answer).pcb = client.pcb := by
  simp only [timedOut, Bool.and_eq_true, Bool.not_eq_true', decide_eq_true_eq] at late
  simp [poll, late]

theorem close_later_outgoing (client : Client) (answer : Err) :
    (client.close false answer).outgoing = client.outgoing := by
  unfold close
  simp only [Bool.false_eq_true, if_false]
  split <;> rfl

theorem pollClosing_outgoing (client : Client) (now : UInt32) (answer : Err) :
    (client.pollClosing now answer).outgoing = client.outgoing := by
  unfold pollClosing
  split
  next => exact (close_later_outgoing _ .ok).trans (poll_ledgers client now answer).1
  next => exact (poll_ledgers client now answer).1

theorem close_window (client : Client) (now : Bool) (answer : Err) :
    (client.close now answer).window =
      (client.rxAckLen,
        client.recved + if client.pcb.isSome then client.rxAckLen else 0) := by
  have opened : (if client.pcb.isSome then
      { client with recved := client.recved + client.rxAckLen } else client).window =
        (client.rxAckLen, client.recved + if client.pcb.isSome then client.rxAckLen else 0) := by
    split <;> rfl
  unfold close
  simp only []
  split
  next => exact (closeNow_ledgers _ answer).2.trans opened
  next => exact opened

theorem pollClosing_window (client : Client) (now : UInt32) (answer : Err) :
    (client.pollClosing now answer).window =
      (client.rxAckLen, client.recved +
        if client.timedOut now && client.pcb.isSome then client.rxAckLen else 0) := by
  have polled := (poll_ledgers client now answer).2
  by_cases late : client.timedOut now = true
  next =>
    simp only [window, Prod.mk.injEq] at polled
    simp only [pollClosing, late, if_true, close_window, polled, timedOut_poll_pcb, Bool.true_and]
  next => simpa [pollClosing, late, window] using polled

theorem write_window (client : Client) (answer : Answer) (data : List UInt8) :
    (client.write answer data).1.window = client.window := by
  have added : (client.add answer data).1.window = client.window := by
    unfold add
    split
    next => rfl
    next =>
      split
      next => rfl
      next =>
        simp only []
        split <;> rfl
  have sent (other : Client) : (other.send answer).1.window = other.window := by
    unfold send
    split <;> rfl
  unfold write
  simp only []
  split
  next => exact added
  next => split <;> exact (sent _).trans added

structure Attached (client : Client) : Prop where
  deletes : client.deletes = true
  pcb : client.tracker.hasClient = true → client.pcb.isSome

theorem setCloseError_hasClient (tracker : ACErrorTracker) (err : Err) :
    (tracker.setCloseError err).hasClient = tracker.hasClient := by
  unfold ACErrorTracker.setCloseError
  split <;> rfl

theorem discard_deleted (client : Client) (deletes : client.deletes = true) :
    client.discard.deletes = true ∧ client.discard.tracker.hasClient = false := by
  simp [discard, deletes, ACErrorTracker.clearClient]

theorem Attached.of_deleted {client : Client}
    (deleted : client.deletes = true ∧ client.tracker.hasClient = false) : Attached client :=
  ⟨deleted.1, fun there => by simp [deleted.2] at there⟩

theorem sError_deleted (client : Client) (err : Err) (deletes : client.deletes = true) :
    (client.sError err).deletes = true ∧ (client.sError err).tracker.hasClient = false :=
  discard_deleted _ deletes

theorem abort_deleted (client : Client) (deletes : client.deletes = true)
    (some' : client.pcb.isSome) :
    (client.abort true).deletes = true ∧ (client.abort true).tracker.hasClient = false := by
  cases block : client.pcb with
  | none => simp [block] at some'
  | some pcb =>
    have told := sError_deleted { client with
      released := client.released + 1
      aborted := client.aborted ++ [true] } .abrt deletes
    simp only [block] at told
    simp only [abort, block, if_true, setCloseError_hasClient]
    exact told

theorem abort_deletes (client : Client) : (client.abort false).deletes = client.deletes := by
  unfold abort
  split <;> rfl

theorem closeNow_attached (client : Client) (answer : Err) (attached : Attached client) :
    Attached (client.closeNow answer) := by
  cases block : client.pcb with
  | none => simpa [closeNow, block] using attached
  | some pcb =>
    simp only [closeNow, block]
    split
    · exact .of_deleted (discard_deleted _ attached.deletes)
    · exact .of_deleted (discard_deleted _ ((abort_deletes client).trans attached.deletes))

theorem close_attached (client : Client) (now : Bool) (answer : Err)
    (attached : Attached client) : Attached (client.close now answer) := by
  have opened : Attached (if client.pcb.isSome then
      { client with recved := client.recved + client.rxAckLen } else client) := by
    split
    · exact ⟨attached.deletes, attached.pcb⟩
    · exact attached
  unfold close
  simp only []
  split
  · exact closeNow_attached _ answer opened
  · exact ⟨opened.deletes, opened.pcb⟩

theorem sent_attached (client : Client) (len now : UInt32) (attached : Attached client) :
    Attached (client.sent len now) := by
  unfold sent
  by_cases settled : client.txUnackedLen - len = 0 <;> simp only [settled, if_true, if_false]
  · exact ⟨attached.deletes, fun there =>
      attached.pcb ((setCloseError_hasClient _ _).symm.trans there)⟩
  · exact ⟨attached.deletes, attached.pcb⟩

theorem poll_attached (client : Client) (now : UInt32) (answer : Err)
    (attached : Attached client) : Attached (client.poll now answer) := by
  have tracked : Attached { client with tracker := client.tracker.setCloseError .ok } :=
    ⟨attached.deletes, fun there =>
      attached.pcb ((setCloseError_hasClient _ _).symm.trans there)⟩
  unfold poll
  simp only []
  split
  · exact closeNow_attached _ answer ⟨tracked.deletes, tracked.pcb⟩
  · split
    · exact ⟨tracked.deletes, tracked.pcb⟩
    · split
      · exact closeNow_attached _ answer tracked
      · exact tracked

theorem pollClosing_attached (client : Client) (now : UInt32) (answer : Err)
    (attached : Attached client) : Attached (client.pollClosing now answer) := by
  have polled := poll_attached client now answer attached
  unfold pollClosing
  split
  · exact close_attached _ false .ok polled
  · exact polled

theorem write_attached (client : Client) (answer : Answer) (data : List UInt8)
    (attached : Attached client) : Attached (client.write answer data).1 := by
  have added : Attached (client.add answer data).1 := by
    unfold add
    split
    next => exact attached
    next =>
      split
      next => exact attached
      next =>
        simp only []
        split
        · exact ⟨attached.deletes, fun _ => rfl⟩
        · exact attached
  have sent (other : Client) (before : Attached other) : Attached (other.send answer).1 := by
    unfold send
    split <;> exact ⟨before.deletes, before.pcb⟩
  unfold write
  simp only []
  split
  next => exact added
  next => split <;> exact sent _ added

end Client

end EspDrone.AsyncTcp

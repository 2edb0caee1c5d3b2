import EspDrone.AsyncTcp.Client
import EspDrone.Shared.BoundedQueue
import EspDrone.Shared.Runs
import Mathlib.Algebra.GroupWithZero.Nat

set_option autoImplicit false

namespace EspDrone.AsyncTcp

-- `holds` is _client != NULL, and `heap` answers the allocations of _onData. `received` and
-- `delivered` are what lwIP has brought and what read has returned, `recredited` is what closing
-- gave to tcp_recved on top of the reads, and `lost` says that an allocation has failed.
structure SyncClient (C : Type) where
  client : Client
  holds : Bool
  rxBuffer : List C
  heap : List Bool
  received : List UInt8
  delivered : List UInt8
  recredited : Nat
  lost : Bool
  deriving DecidableEq, Repr

-- `send` is what _sendBuffer hands to the client.
inductive SyncEvent where
  | read (len : Nat)
  | send (answer : Answer) (data : List UInt8)
  | setTimeout (seconds : UInt32)
  | stop (answer : Err)
  | recv (payloads : List (List UInt8)) (heap : List Bool) (now : UInt32)
  | fin (answer : Err)
  | sent (len now : UInt32)
  | poll (now : UInt32) (answer : Err)
  | progress (pcb : Pcb)
  | error (err : Err)
  deriving DecidableEq, Repr

namespace SyncClient

variable {C : Type} (api : BoundedQueue UInt8 C)

-- SyncClient(client) with a client that has just been accepted.
def initial (pcb : Pcb) (now : UInt32) : SyncClient C :=
  { client := Client.initial (some pcb) now true, holds := true, rxBuffer := [], heap := []
    received := [], delivered := [], recredited := 0, lost := false }

def connected (sync : SyncClient C) : Bool := sync.holds && sync.client.connected

-- The disconnect callback deletes the client and drops the pointer to it.
def settle (sync : SyncClient C) : SyncClient C :=
  { sync with holds := sync.holds && sync.client.tracker.hasClient }

-- _onData: without heap for the buffer the connection is aborted.
def onData (sync : SyncClient C) (data : List UInt8) : SyncClient C :=
  let arrived := { sync with
    client := sync.client.ackLater
    heap := sync.heap.tail }
  if sync.heap.headD true then
    { arrived with
      rxBuffer := sync.rxBuffer ++ [api.write (api.new (data.length + 1)) data] }
  else { arrived with client := arrived.client.abort true, lost := true }.settle

def host : Client.Host (SyncClient C) where
  client := client
  setClient sync client := { sync with client := client }
  onData := onData api

-- The loop of read over whole buffers; size() counts the cell that stays free.
def readBuffers : List C → Nat → SyncClient C → SyncClient C × Nat
  | [], len, sync => ({ sync with rxBuffer := [] }, len)
  | buffer :: rest, len, sync =>
      if api.available buffer ≤ len then
        let taken := { sync with delivered := sync.delivered ++ api.contents buffer }
        let acked :=
          if taken.connected then { taken with client := taken.client.ack (api.capacity buffer) }
          else taken
        readBuffers rest (len - api.available buffer) acked
      else ({ sync with rxBuffer := buffer :: rest }, len)

def read (sync : SyncClient C) (len : Nat) : SyncClient C :=
  let looped := readBuffers api sync.rxBuffer len sync
  match looped.1.rxBuffer with
  | [] => looped.1
  | buffer :: rest =>
      if looped.2 = 0 then looped.1
      else
        { looped.1 with
          rxBuffer := api.remove buffer looped.2 :: rest
          delivered := looped.1.delivered ++ api.peek buffer looped.2 }

def available (sync : SyncClient C) : Nat := (sync.rxBuffer.map api.available).sum

def onClient (sync : SyncClient C) (client : Client) : SyncClient C :=
  { sync with client := client }.settle

def stop (sync : SyncClient C) (answer : Err) : SyncClient C :=
  { sync with
    recredited := sync.recredited + if sync.client.pcb.isSome then sync.client.rxAckLen else 0 }.onClient
      (sync.client.close true answer)

-- _poll, whose timeout callback closes the client.
def poll (sync : SyncClient C) (now : UInt32) (answer : Err) : SyncClient C :=
  { sync with
    recredited := sync.recredited +
      if sync.client.timedOut now && sync.client.pcb.isSome then sync.client.rxAckLen else 0 }.onClient
      (sync.client.pollClosing now answer)

-- The calls of the sketch do nothing without a client; lwIP calls back only for one.
def step (sync : SyncClient C) : SyncEvent → Option (SyncClient C)
  | .read len => some (sync.read api len)
  | .send answer data =>
      some (if sync.holds then sync.onClient (sync.client.write answer data).1 else sync)
  | .setTimeout seconds =>
      some (if sync.holds then sync.onClient (sync.client.setRxTimeout seconds) else sync)
  | .stop answer => some (if sync.holds then sync.stop answer else sync)
  | .recv payloads heap now =>
      if sync.holds then
        some (Client.recv (host api) { sync with
          heap := heap
          received := sync.received ++ payloads.flatten } payloads now)
      else none
  | .fin answer => if sync.holds then some (sync.onClient (sync.client.closeNow answer)) else none
  | .sent len now => if sync.holds then some (sync.onClient (sync.client.sent len now)) else none
  | .poll now answer => if sync.holds then some (sync.poll now answer) else none
  | .progress pcb =>
      if sync.holds then
        some (sync.onClient { sync.client with pcb := sync.client.pcb.map fun _ => pcb })
      else none
  | .error err => if sync.holds then some (sync.onClient (sync.client.sError err)) else none

def buffered (sync : SyncClient C) : List UInt8 := (sync.rxBuffer.map api.contents).flatten

def heldSize (sync : SyncClient C) : Nat := (sync.rxBuffer.map api.capacity).sum

end SyncClient

namespace SyncClient

variable {C : Type} {api : BoundedQueue UInt8 C}

-- `coming` is what is left of the chain of buffers lwIP has brought.
structure Balanced (api : BoundedQueue UInt8 C) (coming : List UInt8) (sync : SyncClient C) :
    Prop where
  stream : sync.delivered ++ sync.buffered api <+: sync.received
  whole : sync.lost = false → sync.delivered ++ sync.buffered api ++ coming = sync.received
  window : sync.client.recved + sync.client.rxAckLen =
    (sync.delivered ++ sync.buffered api).length + sync.recredited
  held : sync.heldSize api ≤ sync.client.rxAckLen
  attached : sync.client.Attached
  alive : sync.holds = true → sync.client.tracker.hasClient = true
  kept : sync.client.tracker.hasClient = true → sync.lost = false

-- A step of the client alone, after which the pointer is dropped if it was deleted; `more` is
-- what it credits.
theorem onClient_balanced (sync : SyncClient C) (client : Client) (more : Nat)
    (balanced : Balanced api [] sync) (there : sync.holds = true)
    (window : client.window = (sync.client.rxAckLen, sync.client.recved + more))
    (attached : client.Attached) :
    Balanced api [] ({ sync with recredited := sync.recredited + more }.onClient client) := by
  simp only [Client.window, Prod.mk.injEq] at window
  have ledger := balanced.window
  have held := balanced.held
  exact
    { stream := balanced.stream
      whole := balanced.whole
      window := by
        simp only [onClient, settle, SyncClient.buffered, window.1, window.2] at ledger ⊢
        omega
      held := by
        simp only [onClient, settle, SyncClient.heldSize, window.1] at held ⊢
        exact held
      attached := attached
      alive := fun still => by
        simp only [onClient, settle, Bool.and_eq_true] at still
        exact still.2
      kept := fun _ => balanced.kept (balanced.alive there) }

theorem initial_balanced (pcb : Pcb) (now : UInt32) :
    Balanced api [] (initial pcb now : SyncClient C) where
  stream := by simp [initial, SyncClient.buffered]
  whole _ := by simp [initial, SyncClient.buffered]
  window := by simp [initial, Client.initial, SyncClient.buffered]
  held := by simp [initial, SyncClient.heldSize]
  attached := ⟨rfl, fun _ => rfl⟩
  alive _ := rfl
  kept _ := rfl

theorem buffered_append (buffers : List C) (data : List UInt8) :
    ((buffers ++ [api.write (api.new (data.length + 1)) data]).map api.contents).flatten =
      (buffers.map api.contents).flatten ++ data := by
  simp

theorem recvPbuf_balanced (sync : SyncClient C) (payload coming : List UInt8)
    (balanced : Balanced api (payload ++ coming) sync)
    (there : sync.client.tracker.hasClient = true) :
    let opened := { sync with client := { sync.client with ackPcb := true } }
    let handled := onData api opened payload
    let credited :=
      if handled.client.tracker.hasClient then
        { handled with client := handled.client.credit payload.length } else handled
    Balanced api coming credited ∧
      (credited.lost = false → credited.client.tracker.hasClient = true) := by
  have unlost := balanced.kept there
  have window := balanced.window
  have held := balanced.held
  have whole := balanced.whole unlost
  by_cases heap : sync.heap.headD true = true
  · have size : api.capacity (api.write (api.new (payload.length + 1)) payload) =
        payload.length := by simp
    simp only [onData, heap, if_true, Client.ackLater, Client.credit,
      Bool.false_eq_true, if_false]
    rw [if_pos there]
    refine ⟨?_, fun _ => there⟩
    have moved : sync.delivered ++ ((sync.rxBuffer.map api.contents).flatten ++ payload) ++ coming =
        sync.received := by
      simpa only [SyncClient.buffered, List.append_assoc] using whole
    exact
      { stream := by
          simp only [SyncClient.buffered, buffered_append]
          exact ⟨coming, moved⟩
        whole := fun _ => by
          simp only [SyncClient.buffered, buffered_append]
          exact moved
        window := by
          simp only [SyncClient.buffered, buffered_append, List.length_append] at window ⊢
          omega
        held := by
          simp only [SyncClient.heldSize, List.map_append, List.sum_append, List.map_singleton,
            List.sum_singleton, size] at held ⊢
          omega
        attached := ⟨balanced.attached.deletes, balanced.attached.pcb⟩
        alive := fun _ => there
        kept := fun _ => unlost }
  · have deleted := Client.abort_deleted
      { sync.client with ackPcb := false } balanced.attached.deletes (balanced.attached.pcb there)
    have ledgers := (Client.abort_ledgers { sync.client with ackPcb := false } true).2
    simp only [Client.window, Prod.mk.injEq] at ledgers
    simp only [onData, heap, Bool.false_eq_true, if_false, Client.ackLater, settle, deleted.2,
      Bool.and_false]
    refine ⟨?_, fun unlost => by simp at unlost⟩
    exact
      { stream := balanced.stream
        whole := fun unlost => by simp at unlost
        window := by
          simp only [ledgers.1, ledgers.2]
          exact window
        held := by
          simp only [ledgers.1]
          exact held
        attached := .of_deleted deleted
        alive := fun dead => by simp at dead
        kept := fun dead => by simp [deleted.2] at dead }

theorem recvPbufs_balanced (sync : SyncClient C) (payloads : List (List UInt8))
    (balanced : Balanced api payloads.flatten sync)
    (there : sync.lost = false → sync.client.tracker.hasClient = true) :
    Balanced api [] (Client.recvPbufs (host api) sync payloads) := by
  induction payloads generalizing sync with
  | nil => exact balanced
  | cons payload rest ih =>
    unfold Client.recvPbufs
    split
    next gone =>
      have lost : sync.lost ≠ false := fun unlost => by simp [host, there unlost] at gone
      exact { balanced with whole := fun unlost => absurd unlost lost }
    next alive =>
      have alive' : sync.client.tracker.hasClient = true := by simpa [host] using alive
      obtain ⟨kept, after⟩ := recvPbuf_balanced sync payload rest.flatten balanced alive'
      exact ih _ kept after

theorem readBuffers_balanced (buffers : List C) (len : Nat) (sync : SyncClient C)
    (balanced : Balanced api [] { sync with rxBuffer := buffers }) :
    Balanced api [] (readBuffers api buffers len sync).1 := by
  induction buffers generalizing len sync with
  | nil => exact balanced
  | cons buffer rest ih =>
    unfold readBuffers
    split
    next =>
      apply ih
      have window := balanced.window
      have held := balanced.held
      have stream := balanced.stream
      have whole := balanced.whole
      simp only [SyncClient.buffered, SyncClient.heldSize, List.map_cons, List.flatten_cons,
        List.sum_cons, ← List.append_assoc] at window held stream whole
      have inside : min (api.capacity buffer) sync.client.rxAckLen = api.capacity buffer := by omega
      split
      next =>
        exact
          { stream := stream
            whole := whole
            window := by
              simp only [Client.ack, inside, SyncClient.buffered]
              omega
            held := by
              simp only [Client.ack, inside, SyncClient.heldSize]
              omega
            attached := ⟨balanced.attached.deletes, balanced.attached.pcb⟩
            alive := balanced.alive
            kept := balanced.kept }
      next =>
        exact
          { stream := stream
            whole := whole
            window := window
            held := by
              simp only [SyncClient.heldSize]
              omega
            attached := balanced.attached
            alive := balanced.alive
            kept := balanced.kept }
    next => exact balanced

theorem read_balanced (sync : SyncClient C) (len : Nat) (balanced : Balanced api [] sync) :
    Balanced api [] (sync.read api len) := by
  have looped := readBuffers_balanced sync.rxBuffer len sync balanced
  unfold read
  generalize readBuffers api sync.rxBuffer len sync = result at looped
  simp only []
  split
  next => exact looped
  next buffer rest chain =>
    split
    next => exact looped
    next =>
      have window := looped.window
      have held := looped.held
      have stream := looped.stream
      have whole := looped.whole
      have moved : result.1.delivered ++ api.peek buffer result.2 ++
          (((api.remove buffer result.2 :: rest).map api.contents).flatten) =
            result.1.delivered ++ result.1.buffered api := by
        simp only [SyncClient.buffered, chain, List.map_cons, List.flatten_cons]
        rw [← api.peek_append_remove buffer result.2]
        simp only [List.append_assoc]
      exact
        { stream := by
            simp only [SyncClient.buffered, moved]
            exact stream
          whole := fun unlost => by
            simp only [SyncClient.buffered, moved]
            exact whole unlost
          window := by
            simp only [SyncClient.buffered, moved]
            exact window
          held := by
            simp only [SyncClient.heldSize, chain, List.map_cons, api.capacity_remove] at held ⊢
            exact held
          attached := looped.attached
          alive := looped.alive
          kept := looped.kept }

theorem step_balanced (sync next : SyncClient C) (event : SyncEvent)
    (balanced : Balanced api [] sync) (taken : sync.step api event = some next) :
    Balanced api [] next := by
  have attached := balanced.attached
  have called (client : Client) (more : Nat)
      (window : client.window = (sync.client.rxAckLen, sync.client.recved + more))
      (attached : client.Attached) :
      Balanced api [] (if sync.holds then
        { sync with recredited := sync.recredited + more }.onClient client else sync) := by
    split
    next there => exact onClient_balanced sync client more balanced there window attached
    next => exact balanced
  cases event with
  | read len =>
    obtain rfl := Option.some.inj taken
    exact read_balanced sync len balanced
  | send answer data =>
    obtain rfl := Option.some.inj taken
    exact called _ 0 (Client.write_window _ answer data)
      (Client.write_attached _ answer data attached)
  | setTimeout seconds =>
    obtain rfl := Option.some.inj taken
    exact called (sync.client.setRxTimeout seconds) 0 rfl ⟨attached.deletes, attached.pcb⟩
  | stop answer =>
    obtain rfl := Option.some.inj taken
    exact called _ _ (Client.close_window sync.client true answer)
      (Client.close_attached sync.client true answer attached)
  | recv payloads heap now =>
    simp only [step, Option.ite_none_right_eq_some, Option.some.injEq] at taken
    obtain ⟨there, rfl⟩ := taken
    have same := Client.setCloseError_hasClient sync.client.tracker .ok
    have alive := balanced.alive there
    have whole := balanced.whole (balanced.kept alive)
    have arrived : Balanced api payloads.flatten { sync with
        heap := heap
        received := sync.received ++ payloads.flatten
        client := { sync.client with
          rxLastPacket := now
          tracker := sync.client.tracker.setCloseError .ok } } :=
      { stream := balanced.stream.trans (List.prefix_append _ _)
        whole := fun _ => by
          rw [← whole, List.append_nil]
          rfl
        window := balanced.window
        held := balanced.held
        attached := ⟨attached.deletes, fun alive => attached.pcb (same.symm.trans alive)⟩
        alive := fun _ => same.trans alive
        kept := fun _ => balanced.kept alive }
    exact recvPbufs_balanced _ payloads arrived fun _ => same.trans alive
  | fin answer =>
    simp only [step, Option.ite_none_right_eq_some, Option.some.injEq] at taken
    obtain ⟨there, rfl⟩ := taken
    exact onClient_balanced sync _ 0 balanced there (Client.closeNow_ledgers _ answer).2
      (Client.closeNow_attached _ answer attached)
  | sent len now =>
    simp only [step, Option.ite_none_right_eq_some, Option.some.injEq] at taken
    obtain ⟨there, rfl⟩ := taken
    exact onClient_balanced sync _ 0 balanced there (Client.sent_ledgers _ len now).2
      (Client.sent_attached _ len now attached)
  | poll now answer =>
    simp only [step, Option.ite_none_right_eq_some, Option.some.injEq] at taken
    obtain ⟨there, rfl⟩ := taken
    exact onClient_balanced sync _ _ balanced there (Client.pollClosing_window _ now answer)
      (Client.pollClosing_attached _ now answer attached)
  | progress pcb =>
    simp only [step, Option.ite_none_right_eq_some, Option.some.injEq] at taken
    obtain ⟨there, rfl⟩ := taken
    exact onClient_balanced sync _ 0 balanced there rfl
      ⟨attached.deletes, fun alive => by simpa using attached.pcb alive⟩
  | error err =>
    simp only [step, Option.ite_none_right_eq_some, Option.some.injEq] at taken
    obtain ⟨there, rfl⟩ := taken
    exact onClient_balanced sync _ 0 balanced there (Client.sError_ledgers _ err).2
      (.of_deleted (Client.sError_deleted _ err attached.deletes))

theorem buffered_le_heldSize (api : BoundedQueue UInt8 C) (buffers : List C) :
    (buffers.map api.contents).flatten.length ≤ (buffers.map api.capacity).sum := by
  induction buffers with
  | nil => simp
  | cons buffer rest ih =>
    have inside := api.available_le_capacity buffer
    simp only [List.map_cons, List.flatten_cons, List.length_append, List.sum_cons]
    omega

/-- The sketch reads the received bytes in order, and all of them as long as no allocation has
failed, also after the connection is gone. The receive window is never opened for more than what
it has read, except for what closing has credited again. -/
theorem window_follows_reads (pcb : Pcb) (now : UInt32) (events : List SyncEvent)
    (final : SyncClient C)
    (reached : Runs.run (step api) (initial pcb now) events = some final) :
    final.delivered ++ final.buffered api <+: final.received ∧
      (final.lost = false → final.delivered ++ final.buffered api = final.received) ∧
      (final.holds = true → final.lost = false) ∧
      final.client.recved ≤ final.delivered.length + final.recredited := by
  have balanced := Runs.run_invariant (step api) (Balanced api [])
    (fun state event next holds taken => step_balanced state next event holds taken)
    events _ final (initial_balanced pcb now) reached
  refine ⟨balanced.stream, fun unlost => ?_, fun there => balanced.kept (balanced.alive there), ?_⟩
  · rw [← balanced.whole unlost, List.append_nil]
  · have window := balanced.window
    have held := balanced.held
    have inside := buffered_le_heldSize api final.rxBuffer
    simp only [SyncClient.heldSize, SyncClient.buffered, List.length_append] at held window
    omega

theorem window_follows_reads_fin :
    let run := Runs.run (step (BoundedQueue.listed UInt8)) (initial ⟨4, 9⟩ 0)
    ∃ final, run [.recv [[1, 2], [3]] [true, true] 5, .read 2, .fin .ok, .read 1] = some final ∧
      final.delivered ++ final.buffered (BoundedQueue.listed UInt8) <+: final.received ∧
      (final.lost = false →
        final.delivered ++ final.buffered (BoundedQueue.listed UInt8) = final.received) ∧
      (final.holds = true → final.lost = false) ∧
      final.client.recved ≤ final.delivered.length + final.recredited := by
  intro run
  have reached : run [.recv [[1, 2], [3]] [true, true] 5, .read 2, .fin .ok, .read 1] =
    some _ := rfl
  exact ⟨_, reached, window_follows_reads _ _ _ _ reached⟩

end SyncClient

end EspDrone.AsyncTcp

import EspDrone.AsyncTcp.Transmit
import Mathlib.Algebra.GroupWithZero.Nat

set_option autoImplicit false

namespace EspDrone.AsyncTcp

inductive DelayEvent (E : Type) where
  | network (event : E)
  | onAck (heap : Bool)
  | onDisconnect
  deriving DecidableEq, Repr

-- `handed` is what has been read out of the buffer for the client, and `rooms` are the sizes
-- of the rounds of the write under way.
structure Printer (C L : Type) where
  client : Option L
  txBuffer : Option C
  handed : List UInt8
  rooms : List Nat
  deriving DecidableEq, Repr

-- One turn of the loop of write: the delays until the client can send, and whether there is
-- heap for the copy of _sendBuffer.
structure Round (E : Type) where
  delays : List (List (DelayEvent E))
  heap : Bool

namespace Printer

variable {C L E : Type} (api : BoundedQueue UInt8 C) (link : Link L E)

def connected (printer : Printer C L) : Bool := printer.client.any link.connected

def canSend (printer : Printer C L) : Bool := printer.client.any link.canSend

def sendBuffer (heap : Bool) (printer : Printer C L) : Printer C L :=
  match printer.client, printer.txBuffer with
  | some client, some buffer =>
      if !(link.connected client) || !(link.canSend client) || api.available buffer == 0 || !heap
      then printer
      else
        let available := min (api.available buffer) (link.space client)
        { printer with
          client := some (link.write client (api.peek buffer available)).1
          txBuffer := some (api.remove buffer available)
          handed := printer.handed ++ api.peek buffer available }
  | _, _ => printer

def delayed (printer : Printer C L) : DelayEvent E → Printer C L
  | .network event => { printer with client := printer.client.map (link.network event) }
  | .onAck heap => sendBuffer api link heap printer
  | .onDisconnect => { printer with client := none, txBuffer := none }

-- while (connected() && !_client->canSend()) delay(0)
def awaitSend : List (List (DelayEvent E)) → Printer C L → Option (Printer C L)
  | delays, printer =>
      if printer.connected link && !(printer.canSend link) then
        match delays with
        | [] => none
        | events :: later => awaitSend later (events.foldl (delayed api link) printer)
      else some printer

-- The loop of write: `none` while it runs, no count when the connection is lost, else what is
-- left to send. Each round copies from the start of the data.
def writeLoop : List (Round E) → Printer C L → List UInt8 → Nat →
    Option (Printer C L × Option Nat)
  | rounds, printer, data, toSend =>
      match printer.txBuffer with
      | none => some (printer, none)
      | some buffer =>
          if api.room buffer < toSend then
            match rounds with
            | [] => none
            | round :: later =>
                let toWrite := api.room buffer
                let filled := { printer with
                  txBuffer := some (api.write buffer (data.take toWrite))
                  rooms := printer.rooms ++ [toWrite] }
                (awaitSend api link round.delays filled).bind fun ready =>
                  if !(ready.connected link) then some (ready, none)
                  else
                    writeLoop later (sendBuffer api link round.heap ready) data (toSend - toWrite)
          else some (printer, some toSend)

-- The end of write: AsyncPrinter waits for the client, SyncClient sends only if it can.
def finish (waits : Bool) (last : Round E) (printer : Printer C L) :
    Option (Printer C L × Bool) :=
  if waits then
    (awaitSend api link last.delays printer).map fun ready =>
      if !(ready.connected link) then (ready, false)
      else (sendBuffer api link last.heap ready, true)
  else if printer.connected link && printer.canSend link then
    some (sendBuffer api link last.heap printer, true)
  else some (printer, true)

def write (waits : Bool) (rounds : List (Round E)) (last : Round E) (printer : Printer C L)
    (data : List UInt8) : Option (Printer C L × Nat) :=
  if printer.txBuffer.isNone || !(printer.connected link) then some (printer, 0)
  else
    (writeLoop api link rounds { printer with rooms := [] } data data.length).bind fun looped =>
      match looped.2, looped.1.txBuffer with
      | some toSend, some buffer =>
          let stored := { looped.1 with
            txBuffer := some (api.write buffer (data.drop (data.length - toSend))) }
          (finish api link waits last stored).map fun ended =>
            (ended.1, if ended.2 then data.length else 0)
      | _, _ => some (looped.1, 0)

def syncClientWrite (rounds : List (Round E)) (last : Round E) (printer : Printer C L)
    (data : List UInt8) : Option (Printer C L × Nat) :=
  write api link false rounds last printer data

def asyncPrinterWrite (rounds : List (Round E)) (last : Round E) (printer : Printer C L)
    (data : List UInt8) : Option (Printer C L × Nat) :=
  write api link true rounds last printer data

def stream (printer : Printer C L) : List UInt8 :=
  printer.handed ++ (printer.txBuffer.map api.contents).getD []

end Printer

namespace Printer

variable {C L E : Type} {api : BoundedQueue UInt8 C} {link : Link L E}

structure Holds (api : BoundedQueue UInt8 C) (printer : Printer C L) (bytes : List UInt8)
    (rooms : List Nat) : Prop where
  buffer : printer.client.isSome → printer.txBuffer.isSome
  stream : printer.client.isSome → printer.stream api = bytes
  rooms : printer.rooms = rooms

theorem sendBuffer_holds (heap : Bool) (printer : Printer C L) (bytes : List UInt8)
    (rooms : List Nat) (holds : Holds api printer bytes rooms) :
    Holds api (sendBuffer api link heap printer) bytes rooms := by
  unfold sendBuffer
  split
  next client buffer someClient someBuffer =>
    split
    · exact holds
    · have same := holds.stream (by simp [someClient])
      constructor
      · simp
      · intro _
        simp only [stream, someBuffer, Option.map_some, Option.getD_some] at same ⊢
        rw [List.append_assoc, api.peek_append_remove]
        exact same
      · exact holds.rooms
  next => exact holds

theorem sendBuffer_isSome (heap : Bool) (printer : Printer C L) (up : printer.client.isSome) :
    (sendBuffer api link heap printer).client.isSome := by
  unfold sendBuffer
  split
  · split
    · exact up
    · rfl
  · exact up

theorem delayed_holds (printer : Printer C L) (event : DelayEvent E) (bytes : List UInt8)
    (rooms : List Nat) (holds : Holds api printer bytes rooms) :
    Holds api (delayed api link printer event) bytes rooms := by
  cases event with
  | network event =>
    constructor
    · intro some'
      exact holds.buffer (by simpa [delayed] using some')
    · intro some'
      exact holds.stream (by simpa [delayed] using some')
    · exact holds.rooms
  | onAck heap => exact sendBuffer_holds heap printer bytes rooms holds
  | onDisconnect => exact ⟨by simp [delayed], by simp [delayed], holds.rooms⟩

theorem awaitSend_holds (delays : List (List (DelayEvent E))) (printer ready : Printer C L)
    (bytes : List UInt8) (rooms : List Nat) (holds : Holds api printer bytes rooms)
    (returned : awaitSend api link delays printer = some ready) :
    Holds api ready bytes rooms := by
  have batch : ∀ (events : List (DelayEvent E)) printer, Holds api printer bytes rooms →
      Holds api (events.foldl (delayed api link) printer) bytes rooms := by
    intro events
    induction events with
    | nil => exact fun _ kept => kept
    | cons event rest ih =>
      exact fun printer kept => ih _ (delayed_holds printer event bytes rooms kept)
  induction delays generalizing printer with
  | nil =>
    unfold awaitSend at returned
    split at returned
    · simp at returned
    · obtain rfl := Option.some.inj returned
      exact holds
  | cons events later ih =>
    unfold awaitSend at returned
    split at returned
    · exact ih _ (batch events printer holds) returned
    · obtain rfl := Option.some.inj returned
      exact holds

-- What rounds of the given sizes put into the buffer before the rest of the data.
def repeated (data : List UInt8) (rooms : List Nat) : List UInt8 :=
  (rooms.map data.take).flatten

theorem isSome_of_connected (printer : Printer C L) (up : printer.connected link = true) :
    printer.client.isSome := by
  unfold connected at up
  cases client : printer.client with
  | none => simp [client] at up
  | some client => rfl

theorem writeLoop_holds (rounds : List (Round E)) (printer ended : Printer C L)
    (data bytes : List UInt8) (toSend left : Nat) (rooms : List Nat)
    (up : printer.client.isSome)
    (holds : Holds api printer (bytes ++ repeated data rooms) rooms)
    (counted : rooms.sum + toSend = data.length)
    (returned : writeLoop api link rounds printer data toSend = some (ended, some left)) :
    ended.client.isSome ∧
      Holds api ended (bytes ++ repeated data ended.rooms) ended.rooms ∧
      ended.rooms.sum + left = data.length ∧
      ∀ buffer, ended.txBuffer = some buffer → left ≤ api.room buffer := by
  induction rounds generalizing printer toSend rooms with
  | nil =>
    unfold writeLoop at returned
    split at returned
    next => simp at returned
    next buffer held =>
      split at returned
      · simp at returned
      next enough =>
        obtain ⟨rfl, rfl⟩ : printer = ended ∧ toSend = left := by simpa using returned
        have same := holds.rooms
        subst same
        refine ⟨up, holds, counted, ?_⟩
        intro other is
        obtain rfl := Option.some.inj (held.symm.trans is)
        omega
  | cons round later ih =>
    unfold writeLoop at returned
    split at returned
    next => simp at returned
    next buffer held =>
      split at returned
      next short =>
        obtain ⟨ready, awaited, rest⟩ := Option.bind_eq_some_iff.1 returned
        have inside : (data.take (api.room buffer)).take (api.room buffer) =
            data.take (api.room buffer) := by simp [List.take_take]
        have filled : Holds api
            { printer with
              txBuffer := some (api.write buffer (data.take (api.room buffer)))
              rooms := printer.rooms ++ [api.room buffer] }
            (bytes ++ repeated data (rooms ++ [api.room buffer]))
            (rooms ++ [api.room buffer]) := by
          have same := holds.stream up
          constructor
          · simp
          · intro _
            simp only [stream, held, Option.map_some, Option.getD_some] at same
            simp only [stream, Option.map_some, Option.getD_some, api.contents_write, inside,
              repeated, List.map_append, List.flatten_append, List.map_singleton,
              List.flatten_singleton, ← List.append_assoc] at same ⊢
            rw [same]
          · simp [holds.rooms]
        have kept := awaitSend_holds round.delays _ ready _ _ filled awaited
        split at rest
        · simp at rest
        next still =>
          have still' : ready.connected link = true := by simpa using still
          have sent : Holds api (sendBuffer api link round.heap ready)
              (bytes ++ repeated data (rooms ++ [api.room buffer]))
              (rooms ++ [api.room buffer]) := sendBuffer_holds round.heap ready _ _ kept
          refine ih _ _ _ (sendBuffer_isSome round.heap ready (isSome_of_connected ready still'))
            sent ?_ rest
          simp only [List.sum_append, List.sum_singleton]
          omega
      next enough =>
        obtain ⟨rfl, rfl⟩ : printer = ended ∧ toSend = left := by simpa using returned
        have same := holds.rooms
        subst same
        refine ⟨up, holds, counted, ?_⟩
        intro other is
        obtain rfl := Option.some.inj (held.symm.trans is)
        omega

theorem finish_holds (waits : Bool) (last : Round E) (printer ended : Printer C L)
    (bytes : List UInt8) (rooms : List Nat) (up : printer.client.isSome)
    (holds : Holds api printer bytes rooms)
    (returned : finish api link waits last printer = some (ended, true)) :
    ended.client.isSome ∧ Holds api ended bytes rooms := by
  have sent (other : Printer C L) (there : other.client.isSome)
      (kept : Holds api other bytes rooms) :
      (sendBuffer api link last.heap other).client.isSome ∧
        Holds api (sendBuffer api link last.heap other) bytes rooms :=
    ⟨sendBuffer_isSome last.heap other there, sendBuffer_holds last.heap other bytes rooms kept⟩
  unfold finish at returned
  split at returned
  · obtain ⟨ready, awaited, same⟩ := Option.map_eq_some_iff.1 returned
    split at same
    · simp at same
    next still =>
      obtain ⟨rfl, -⟩ := Prod.mk.inj same
      exact sent ready (isSome_of_connected ready (by simpa using still))
        (awaitSend_holds last.delays printer ready bytes rooms holds awaited)
  · split at returned
    · obtain ⟨rfl, -⟩ := Prod.mk.inj (Option.some.inj returned)
      exact sent printer up holds
    · obtain ⟨rfl, -⟩ := Prod.mk.inj (Option.some.inj returned)
      exact ⟨up, holds⟩

theorem write_stream (waits : Bool) (rounds : List (Round E)) (last : Round E)
    (printer ended : Printer C L) (data : List UInt8) (some' : data ≠ [])
    (returned : write api link waits rounds last printer data = some (ended, data.length)) :
    ended.stream api =
        printer.stream api ++ repeated data ended.rooms ++ data.drop ended.rooms.sum ∧
      ended.rooms.sum ≤ data.length := by
  have length := List.length_pos_iff.2 some'
  unfold write at returned
  split at returned
  · obtain ⟨-, none'⟩ := Prod.mk.inj (Option.some.inj returned)
    omega
  next open' =>
    simp only [Bool.or_eq_true, Bool.not_eq_true', not_or, Bool.not_eq_false] at open'
    have up := isSome_of_connected printer open'.2
    have start : Holds api { printer with rooms := [] }
        (printer.stream api ++ repeated data []) [] :=
      ⟨fun _ => by simpa [Option.isSome_iff_ne_none] using open'.1,
        fun _ => by simp [repeated, stream], rfl⟩
    obtain ⟨⟨looped, result⟩, ran, rest⟩ := Option.bind_eq_some_iff.1 returned
    split at rest
    next toSend buffer left held =>
      obtain rfl : result = some toSend := left
      replace held : looped.txBuffer = some buffer := held
      obtain ⟨there, kept, counted, fits⟩ :=
        writeLoop_holds rounds { printer with rooms := [] } looped data _ _ toSend [] up start
          (Nat.zero_add data.length) ran
      obtain ⟨⟨final, sent⟩, finished, same⟩ := Option.map_eq_some_iff.1 rest
      obtain ⟨rfl, count⟩ := Prod.mk.inj same
      have sent' : sent = true := by
        by_contra no
        simp only [no, if_false] at count
        omega
      subst sent'
      have dropped : data.length - toSend = looped.rooms.sum := by omega
      have tail : (data.drop looped.rooms.sum).take (api.room buffer) =
          data.drop looped.rooms.sum := by
        apply List.take_of_length_le
        have enough := fits buffer held
        rw [List.length_drop]
        omega
      have stored : Holds api { looped with
            txBuffer := some (api.write buffer (data.drop (data.length - toSend))) }
          (printer.stream api ++ repeated data looped.rooms ++ data.drop looped.rooms.sum)
          looped.rooms := by
        have same := kept.stream there
        simp only [stream, held, Option.map_some, Option.getD_some] at same
        constructor
        · simp
        · intro _
          simp only [stream, Option.map_some, Option.getD_some, api.contents_write, dropped, tail]
          rw [← List.append_assoc, same]
        · rfl
      have still : ({ looped with
          txBuffer := some (api.write buffer (data.drop (data.length - toSend))) } :
            Printer C L).client.isSome := there
      obtain ⟨alive, after⟩ := finish_holds waits last _ final _ _ still stored finished
      have rooms := after.rooms
      rw [after.stream alive]
      simp only [rooms]
      exact ⟨trivial, by omega⟩
    next =>
      obtain ⟨-, none'⟩ := Prod.mk.inj (Option.some.inj rest)
      omega

def Unshifted (data : List UInt8) : Nat → List Nat → Prop
  | _, [] => True
  | offset, room :: rest =>
      data.take room = (data.drop offset).take room ∧ Unshifted data (offset + room) rest

theorem repeated_eq_iff (data : List UInt8) (offset : Nat) (rooms : List Nat)
    (inside : offset + rooms.sum ≤ data.length) :
    repeated data rooms = (data.drop offset).take rooms.sum ↔ Unshifted data offset rooms := by
  induction rooms generalizing offset with
  | nil => simp [repeated, Unshifted]
  | cons room rest ih =>
    simp only [List.sum_cons] at inside
    have split : (data.drop offset).take (room + rest.sum) =
        (data.drop offset).take room ++ (data.drop (offset + room)).take rest.sum := by
      rw [List.take_add, List.drop_drop]
    have length : (data.take room).length = ((data.drop offset).take room).length := by
      simp only [List.length_take, List.length_drop]
      omega
    have later := ih (offset + room) (by omega)
    simp only [repeated, List.map_cons, List.flatten_cons, List.sum_cons, split, Unshifted]
      at later ⊢
    rw [← later]
    constructor
    next => exact fun same => List.append_inj same length
    next => exact fun same => by rw [same.1, same.2]

/-- A write of SyncClient or AsyncPrinter that reports the whole message has queued it unchanged
if and only if every round of its loop found at its place what the message starts with. One
round always does. -/
theorem write_unchanged_iff (waits : Bool) (rounds : List (Round E)) (last : Round E)
    (printer ended : Printer C L) (data : List UInt8) (some' : data ≠ [])
    (returned : write api link waits rounds last printer data = some (ended, data.length)) :
    (ended.stream api = printer.stream api ++ data ↔ Unshifted data 0 ended.rooms) ∧
      (ended.rooms.length ≤ 1 → Unshifted data 0 ended.rooms) := by
  obtain ⟨queued, inside⟩ :=
    write_stream waits rounds last printer ended data some' returned
  constructor
  next =>
    have exactly := repeated_eq_iff data 0 ended.rooms (by omega)
    rw [← exactly, queued, List.append_assoc, List.append_right_inj, List.drop_zero]
    constructor
    next =>
      intro same
      have halves := same.trans (List.take_append_drop ended.rooms.sum data).symm
      exact List.append_cancel_right halves
    next =>
      intro same
      rw [same, List.take_append_drop]
  next =>
    intro few
    match rooms : ended.rooms, few with
    | [], _ => trivial
    | [_], _ => exact ⟨by simp, trivial⟩

theorem write_unchanged_iff_twice :
    let printer : Printer (List UInt8 × Nat) Unit :=
      { client := some (), txBuffer := some ([], 2), handed := [], rooms := [] }
    ∃ ended, write (BoundedQueue.listed UInt8) (Link.ready 2) false [⟨[], true⟩, ⟨[], true⟩]
        ⟨[], true⟩ printer [1, 2, 3, 4, 5] = some (ended, 5) ∧
      (ended.stream (BoundedQueue.listed UInt8) = [] ++ [] ++ [1, 2, 3, 4, 5] ↔
        Unshifted [1, 2, 3, 4, 5] 0 ended.rooms) ∧
      (ended.rooms.length ≤ 1 → Unshifted [1, 2, 3, 4, 5] 0 ended.rooms) := by
  intro printer
  have returned : write (BoundedQueue.listed UInt8) (Link.ready 2) false
    [⟨[], true⟩, ⟨[], true⟩] ⟨[], true⟩ printer [1, 2, 3, 4, 5] = some (_, 5) := rfl
  exact ⟨_, returned, write_unchanged_iff false _ _ _ _ _ (by decide) returned⟩

end Printer

end EspDrone.AsyncTcp

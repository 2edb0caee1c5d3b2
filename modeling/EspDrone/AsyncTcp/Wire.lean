import EspDrone.AsyncTcp.Client
import EspDrone.AsyncTcp.Delivery

set_option autoImplicit false

namespace EspDrone.AsyncTcp

-- The client with the answers lwIP still has in store; after them everything succeeds.
structure Connection where
  client : Client
  answers : List Answer
  deriving DecidableEq, Repr

inductive NetEvent where
  | sent (len : UInt32) (now : UInt32)
  | poll (now : UInt32) (answer : Err)
  | progress (pcb : Pcb)
  | answers (answers : List Answer)
  | error (err : Err)
  | fin (answer : Err)
  deriving DecidableEq, Repr

namespace Connection

def answer (connection : Connection) : Answer :=
  connection.answers.headD { written := .ok, output := .ok, now := 0 }

def write (connection : Connection) (bytes : List UInt8) : Connection × Nat :=
  let wrote := connection.client.write connection.answer bytes
  ({ client := wrote.1, answers := connection.answers.tail }, wrote.2)

def network (event : NetEvent) (connection : Connection) : Connection :=
  match event with
  | .sent len now => { connection with client := connection.client.sent len now }
  | .poll now answer => { connection with client := connection.client.pollClosing now answer }
  | .progress pcb =>
      { connection with client := { connection.client with
          pcb := connection.client.pcb.map fun _ => pcb } }
  | .answers answers => { connection with answers := answers }
  | .error err => { connection with client := connection.client.sError err }
  | .fin answer => { connection with client := connection.client.closeNow answer }

end Connection

namespace Client

theorem space_lt (client : Client) : client.space < 65536 := by
  unfold space
  split
  · split
    · exact UInt16.toNat_lt _
    · omega
  · omega

theorem add_cases (client : Client) (answer : Answer) (bytes : List UInt8) :
    client.add answer bytes = (client, 0) ∨
      ∃ pcb count, 0 < count ∧ count ≤ bytes.length ∧ count < 65536 ∧
        client.add answer bytes =
          ({ client with
              pcb := some pcb
              txUnsentLen := client.txUnsentLen + UInt32.ofNat count
              wire := client.wire ++ bytes.take count }, count) := by
  have bound := client.space_lt
  unfold add
  split
  next => exact Or.inl rfl
  next pcb _ =>
    split
    next => exact Or.inl rfl
    next useful =>
      split
      next =>
        simp only [Bool.or_eq_true, List.isEmpty_iff, beq_iff_eq, not_or] at useful
        have more := List.length_pos_iff.2 useful.1
        exact Or.inr ⟨_, min client.space bytes.length, by omega, by omega, by omega, rfl⟩
      next => exact Or.inl rfl

-- What a write leaves on the wire, against what it reports.
theorem write_cases (client : Client) (answer : Answer) (bytes : List UInt8)
    (idle : client.txUnsentLen = 0) :
    (client.write answer bytes).1.txUnsentLen = 0 ∧
      (((client.write answer bytes).1.wire =
            client.wire ++ bytes.take (client.write answer bytes).2 ∧
          (client.write answer bytes).1.unsent = client.unsent) ∨
        ∃ count, 0 < count ∧ count ≤ bytes.length ∧ (client.write answer bytes).2 = 0 ∧
          (client.write answer bytes).1.wire = client.wire ++ bytes.take count ∧
          (client.write answer bytes).1.unsent = client.unsent + count) := by
  rcases client.add_cases answer bytes with nothing | ⟨pcb, count, some', inside, small, added⟩
  · have wrote : client.write answer bytes = (client, 0) := by simp [write, nothing]
    rw [wrote]
    exact ⟨idle, Or.inl ⟨by simp, rfl⟩⟩
  · have taken : count ≠ 0 := by omega
    have counted : (client.txUnsentLen + UInt32.ofNat count).toNat = count := by
      rw [idle, UInt32.zero_add, UInt32.toNat_ofNat', Nat.mod_eq_of_lt (by omega)]
    by_cases output : answer.output = .ok
    · simp [write, added, taken, send, output]
    · refine ⟨by simp [write, added, taken, send, output], Or.inr ⟨count, some', inside, ?_⟩⟩
      simp [write, added, taken, send, output, counted]

theorem write_le (client : Client) (answer : Answer) (bytes : List UInt8) :
    (client.write answer bytes).2 ≤ bytes.length := by
  rcases client.add_cases answer bytes with nothing | ⟨pcb, count, some', inside, small, added⟩
  · simp [write, nothing]
  · have taken : count ≠ 0 := by omega
    simp only [write, added, taken, if_false]
    split
    · exact inside
    · exact Nat.zero_le _

end Client

namespace Connection

def link : Link Connection NetEvent where
  connected connection := connection.client.connected
  space connection := connection.client.space
  canSend connection := connection.client.canSend
  write := write
  network := network
  write_le connection bytes := connection.client.write_le connection.answer bytes

-- The bytes given to lwIP against those the buffer counts as sent.
structure Accounted (connection : Connection) (sent : List UInt8) : Prop where
  idle : connection.client.txUnsentLen = 0
  length : connection.client.wire.length = sent.length + connection.client.unsent
  exact' : connection.client.unsent = 0 → connection.client.wire = sent

theorem write_accounted (connection : Connection) (sent bytes : List UInt8)
    (accounted : Accounted connection sent) :
    Accounted (connection.write bytes).1 (sent ++ bytes.take (connection.write bytes).2) := by
  obtain ⟨idle, ⟨wire, unsent⟩ | ⟨count, some', inside, nothing, wire, unsent⟩⟩ :=
    connection.client.write_cases connection.answer bytes accounted.idle
  · constructor
    · exact idle
    · have length := accounted.length
      change (connection.client.write _ bytes).1.wire.length =
        _ + (connection.client.write _ bytes).1.unsent
      rw [wire, unsent]
      simp only [write, List.length_append]
      omega
    · intro none'
      change (connection.client.write _ bytes).1.wire = _
      rw [wire, accounted.exact' (unsent.symm.trans none')]
      rfl
  · have same : (connection.write bytes).2 = 0 := nothing
    rw [same, List.take_zero, List.append_nil]
    constructor
    · exact idle
    · have length := accounted.length
      change (connection.client.write _ bytes).1.wire.length =
        _ + (connection.client.write _ bytes).1.unsent
      rw [wire, unsent, List.length_append, List.length_take, Nat.min_eq_left inside]
      omega
    · intro none'
      have more : connection.client.unsent + count = 0 := unsent.symm.trans none'
      omega

theorem accounted_of_outgoing (connection other : Connection) (sent : List UInt8)
    (same : other.client.outgoing = connection.client.outgoing)
    (accounted : Accounted connection sent) : Accounted other sent := by
  simp only [Client.outgoing, Prod.mk.injEq] at same
  obtain ⟨idle, wire, unsent⟩ := same
  exact ⟨idle.trans accounted.idle, by rw [wire, unsent]; exact accounted.length,
    fun none' => by rw [wire]; exact accounted.exact' (unsent.symm.trans none')⟩

theorem network_outgoing (connection : Connection) (event : NetEvent) :
    (network event connection).client.outgoing = connection.client.outgoing := by
  cases event with
  | sent len now => exact (Client.sent_ledgers _ len now).1
  | poll now answer => exact Client.pollClosing_outgoing _ now answer
  | progress pcb => rfl
  | answers answers => rfl
  | error err => exact (Client.sError_ledgers _ err).1
  | fin answer => exact (Client.closeNow_ledgers _ answer).1

end Connection

namespace TxSession

variable {C : Type} {api : BoundedQueue UInt8 C}

def Booked (tx : TxBuffer C Connection) : Prop :=
  ∀ connection, tx.client = some connection → connection.Accounted tx.sent

theorem sendRound_booked (tx : TxBuffer C Connection) (booked : Booked tx) :
    Booked (tx.sendRound api Connection.link) := by
  cases client : tx.client with
  | none => simpa [TxBuffer.sendRound, client] using booked
  | some connection =>
    intro other same
    have wrote := connection.write_accounted tx.sent
      (api.peek tx.first (min (api.available tx.first) connection.client.space))
      (booked connection client)
    simp only [TxBuffer.sendRound, client, Option.some.injEq] at same ⊢
    subst same
    exact wrote

theorem step_booked (session next : TxSession C Connection) (event : TxEvent NetEvent)
    (booked : Booked session.tx)
    (taken : step api Connection.link session event = some next) : Booked next.tx := by
  cases event with
  | network event =>
    obtain rfl := Option.some.inj taken
    intro other same
    obtain ⟨connection, before, rfl⟩ := Option.map_eq_some_iff.1 same
    exact Connection.accounted_of_outgoing connection _ _
      (connection.network_outgoing event) (booked connection before)
  | write heaps data =>
    obtain ⟨⟨tx, count⟩, wrote, rfl⟩ := Option.map_eq_some_iff.1 taken
    exact TxBuffer.write_keeps Booked sendRound_booked (fun _ _ _ holds => holds)
      heaps session.tx tx data count booked wrote
  | onAck allocations =>
    obtain ⟨tx, returned, rfl⟩ := Option.map_eq_some_iff.1 taken
    exact TxBuffer.sendBuffer_keeps Booked sendRound_booked allocations session.tx tx booked
      returned
  | onPoll allocations =>
    simp only [step] at taken
    split at taken
    next =>
      obtain rfl := Option.some.inj taken
      exact booked
    next =>
      obtain ⟨tx, returned, rfl⟩ := Option.map_eq_some_iff.1 taken
      exact TxBuffer.sendBuffer_keeps Booked sendRound_booked allocations session.tx tx booked
        returned
  | stop =>
    obtain rfl := Option.some.inj taken
    simp [Booked]
  | onDisconnect =>
    obtain rfl := Option.some.inj taken
    simp [Booked]

theorem initial_booked (connection : Connection) (idle : connection.client.txUnsentLen = 0)
    (fresh : connection.client.wire = []) (none' : connection.client.unsent = 0) :
    Booked (initial api connection).tx := by
  intro other same
  obtain rfl := Option.some.inj same
  exact ⟨idle, by simp [initial, TxBuffer.initial, fresh, none'], fun _ => fresh⟩

/-- lwIP is given exactly the bytes the buffer counts as sent if and only if tcp_output never
failed on bytes that tcp_write had taken. -/
theorem wire_exact_iff_output_succeeds (pcb : Pcb) (now : UInt32) (answers : List Answer)
    (events : List (TxEvent NetEvent)) (final : TxSession C Connection)
    (connection : Connection)
    (reached : Runs.run (step api Connection.link)
      (initial api { client := Client.initial (some pcb) now true, answers := answers }) events =
        some final)
    (held : final.tx.client = some connection) :
    connection.client.wire ++ final.tx.pending api = final.accepted ↔
      connection.client.unsent = 0 := by
  have accounted := Runs.run_invariant (step api Connection.link) (fun session => Booked session.tx)
    (fun session event next holds taken => step_booked session next event holds taken) events _
    final (initial_booked _ rfl rfl rfl) reached connection held
  have kept := transmitted_then_buffered _ events final reached
  constructor
  next =>
    intro same
    have wire : connection.client.wire = final.tx.sent :=
      List.append_cancel_right (same.trans kept.symm)
    have length := accounted.length
    rw [wire] at length
    omega
  next =>
    intro none'
    rw [accounted.exact' none']
    exact kept

theorem wire_exact_iff_output_succeeds_failing :
    let run := Runs.run (step (BoundedQueue.listed UInt8) Connection.link)
      (initial (BoundedQueue.listed UInt8)
        { client := Client.initial (some ⟨4, 2⟩) 0 true, answers := [⟨.ok, .other (-1), 0⟩] })
    ∃ final connection, run [.write [⟨[true], false⟩] [1, 2, 3]] = some final ∧
      final.tx.client = some connection ∧
      (connection.client.wire ++ final.tx.pending (BoundedQueue.listed UInt8) = final.accepted ↔
        connection.client.unsent = 0) := by
  intro run
  have reached : run [.write [⟨[true], false⟩] [1, 2, 3]] = some _ := rfl
  exact ⟨_, _, reached, rfl, wire_exact_iff_output_succeeds ⟨4, 2⟩ 0 _ _ _ _ reached rfl⟩

end TxSession

end EspDrone.AsyncTcp

import EspDrone.AsyncTcp.Transmit

set_option autoImplicit false

namespace EspDrone.AsyncTcp

inductive TxEvent (E : Type) where
  | network (event : E)
  | write (heaps : List Heap) (data : List UInt8)
  | onAck (allocations : List Bool)
  | onPoll (allocations : List Bool)
  | stop
  | onDisconnect
  deriving DecidableEq, Repr

-- `accepted` collects what write has reported as taken.
structure TxSession (C L : Type) where
  tx : TxBuffer C L
  accepted : List UInt8

namespace TxSession

variable {C L E : Type} (api : BoundedQueue UInt8 C) (link : Link L E)

def initial (client : L) : TxSession C L :=
  { tx := TxBuffer.initial api client, accepted := [] }

def step (session : TxSession C L) : TxEvent E → Option (TxSession C L)
  | .network event =>
      some { session with
        tx := { session.tx with client := session.tx.client.map (link.network event) } }
  | .write heaps data =>
      (TxBuffer.write api link heaps session.tx data).map fun answer =>
        { tx := answer.1, accepted := session.accepted ++ data.take answer.2 }
  | .onAck allocations =>
      (TxBuffer.sendBuffer api link allocations session.tx).map fun tx => { session with tx }
  | .onPoll allocations =>
      if api.empty session.tx.first then some session
      else (TxBuffer.sendBuffer api link allocations session.tx).map fun tx => { session with tx }
  | .stop => some { session with tx := { session.tx with client := none } }
  | .onDisconnect => some { session with tx := { session.tx with client := none } }

-- while (connected() && !_client->canSend()) delay(0), with what happens in each delay.
def awaitSend : List (List (TxEvent E)) → TxSession C L → Option (TxSession C L)
  | delays, session =>
      if session.tx.connected link && !(session.tx.canSend link) then
        match delays with
        | [] => none
        | events :: later =>
            (Runs.run (step api link) session events).bind fun next => awaitSend later next
      else some session

structure FlushTurn (E : Type) where
  delays : List (List (TxEvent E))
  allocations : List Bool

def flush : List (FlushTurn E) → TxSession C L → Option (TxSession C L)
  | turns, session =>
      if api.empty session.tx.last then some session
      else
        match turns with
        | [] => none
        | turn :: later =>
            (awaitSend api link turn.delays session).bind fun ready =>
              if !(ready.tx.connected link) then some ready
              else
                (TxBuffer.sendBuffer api link turn.allocations ready.tx).bind fun tx =>
                  flush later { ready with tx }

end TxSession

namespace TxSession

variable {C L E : Type} {api : BoundedQueue UInt8 C} {link : Link L E}

structure Exact (api : BoundedQueue UInt8 C) (session : TxSession C L) : Prop where
  kept : session.tx.sent ++ session.tx.pending api = session.accepted
  settled : session.tx.Settled api

theorem initial_exact (client : L) : Exact api (initial api client) where
  kept := by simp [initial, TxBuffer.initial, TxBuffer.pending]
  settled := TxBuffer.initial_settled client

theorem sendBuffer_exact (allocations : List Bool) (session : TxSession C L)
    (tx : TxBuffer C L) (exact' : Exact api session)
    (returned : TxBuffer.sendBuffer api link allocations session.tx = some tx) :
    Exact api { session with tx } where
  kept := (TxBuffer.sendBuffer_conserves allocations session.tx tx returned).trans exact'.kept
  settled := TxBuffer.sendBuffer_settled allocations session.tx tx exact'.settled returned

theorem client_exact (session : TxSession C L) (client : Option L) (exact' : Exact api session) :
    Exact api { session with tx := { session.tx with client := client } } where
  kept := exact'.kept
  settled := ⟨⟨exact'.settled.older, exact'.settled.cells⟩, exact'.settled.alone⟩

theorem step_exact (session next : TxSession C L) (event : TxEvent E)
    (exact' : Exact api session) (taken : step api link session event = some next) :
    Exact api next := by
  cases event with
  | network event =>
    obtain rfl := Option.some.inj taken
    exact client_exact session _ exact'
  | write heaps data =>
    obtain ⟨⟨tx, count⟩, wrote, rfl⟩ := Option.map_eq_some_iff.1 taken
    constructor
    next =>
      change tx.sent ++ tx.pending api = session.accepted ++ data.take count
      rw [TxBuffer.write_conserves heaps session.tx tx data count wrote, exact'.kept]
    next => exact TxBuffer.write_settled heaps session.tx tx data count exact'.settled wrote
  | onAck allocations =>
    obtain ⟨tx, returned, rfl⟩ := Option.map_eq_some_iff.1 taken
    exact sendBuffer_exact allocations session tx exact' returned
  | onPoll allocations =>
    simp only [step] at taken
    split at taken
    next =>
      obtain rfl := Option.some.inj taken
      exact exact'
    next =>
      obtain ⟨tx, returned, rfl⟩ := Option.map_eq_some_iff.1 taken
      exact sendBuffer_exact allocations session tx exact' returned
  | stop =>
    obtain rfl := Option.some.inj taken
    exact client_exact session none exact'
  | onDisconnect =>
    obtain rfl := Option.some.inj taken
    exact client_exact session none exact'

theorem run_exact (session final : TxSession C L) (events : List (TxEvent E))
    (exact' : Exact api session) (reached : Runs.run (step api link) session events = some final) :
    Exact api final :=
  Runs.run_invariant (step api link) (Exact api)
    (fun state event next holds taken => step_exact state next event holds taken)
    events session final exact' reached

theorem awaitSend_exact (delays : List (List (TxEvent E))) (session ready : TxSession C L)
    (exact' : Exact api session) (returned : awaitSend api link delays session = some ready) :
    Exact api ready := by
  induction delays generalizing session with
  | nil =>
    unfold awaitSend at returned
    split at returned
    · simp at returned
    · obtain rfl := Option.some.inj returned
      exact exact'
  | cons events later ih =>
    unfold awaitSend at returned
    split at returned
    · obtain ⟨next, reached, rest⟩ := Option.bind_eq_some_iff.1 returned
      exact ih next (run_exact session next events exact' reached) rest
    · obtain rfl := Option.some.inj returned
      exact exact'

theorem flush_returns_exact (turns : List (FlushTurn E)) (session final : TxSession C L)
    (exact' : Exact api session) (returned : flush api link turns session = some final) :
    Exact api final ∧
      (final.tx.connected link = false ∨ api.contents final.tx.last = []) := by
  induction turns generalizing session with
  | nil =>
    unfold flush at returned
    split at returned
    next drained =>
      obtain rfl := Option.some.inj returned
      exact ⟨exact', Or.inr ((api.empty_iff _).1 drained)⟩
    next => simp at returned
  | cons turn later ih =>
    unfold flush at returned
    split at returned
    next drained =>
      obtain rfl := Option.some.inj returned
      exact ⟨exact', Or.inr ((api.empty_iff _).1 drained)⟩
    next =>
      obtain ⟨ready, awaited, rest⟩ := Option.bind_eq_some_iff.1 returned
      have kept := awaitSend_exact turn.delays session ready exact' awaited
      split at rest
      next lost =>
        obtain rfl := Option.some.inj rest
        exact ⟨kept, Or.inl (by simpa using lost)⟩
      next =>
        obtain ⟨tx, returned, later⟩ := Option.bind_eq_some_iff.1 rest
        exact ih _ (sendBuffer_exact turn.allocations ready tx kept returned) later

/-- Whatever the order of writes, acknowledgements, polls and disconnections, the client has
taken the first part of what write accepted and the buffers hold the rest, byte for byte. -/
theorem transmitted_then_buffered (client : L) (events : List (TxEvent E))
    (final : TxSession C L)
    (reached : Runs.run (step api link) (initial api client) events = some final) :
    final.tx.sent ++ final.tx.pending api = final.accepted :=
  (run_exact _ final events (initial_exact client) reached).kept

theorem transmitted_then_buffered_twice :
    let run := Runs.run (step (BoundedQueue.listed UInt8) (Link.ready 2))
      (initial (BoundedQueue.listed UInt8) ())
    ∃ final, run [.write [⟨[true, false], false⟩] [1, 2, 3, 4, 5], .onAck [true, false], .stop] =
        some final ∧
      final.tx.sent ++ final.tx.pending (BoundedQueue.listed UInt8) = final.accepted := by
  intro run
  have reached : run [.write [⟨[true, false], false⟩] [1, 2, 3, 4, 5], .onAck [true, false],
    .stop] = some _ := rfl
  exact ⟨_, reached, transmitted_then_buffered () _ _ reached⟩

/-- `flush` looks at the last buffer only, and still nothing is left in the chain when it
returns on a live connection. -/
theorem flush_empties_chain (client : L) (events : List (TxEvent E)) (turns : List (FlushTurn E))
    (session final : TxSession C L)
    (reached : Runs.run (step api link) (initial api client) events = some session)
    (returned : flush api link turns session = some final)
    (alive : final.tx.connected link = true) : final.tx.sent = final.accepted := by
  have start := run_exact _ session events (initial_exact client) reached
  obtain ⟨kept, lost | drained⟩ := flush_returns_exact turns session final start returned
  next => simp [lost] at alive
  next =>
    have alone := kept.settled.alone drained
    simpa [TxBuffer.pending, alone, drained] using kept.kept

-- More than one buffer holds: neither turn of write finds memory for its copy.
theorem flush_empties_chain_two_buffers :
    let link := Link.ready 2000
    let run := Runs.run (step (BoundedQueue.listed UInt8) link)
      (initial (BoundedQueue.listed UInt8) ())
    let events : List (TxEvent Unit) :=
      [.write [⟨[false], false⟩, ⟨[false], false⟩] (List.replicate 1461 7)]
    ∃ session final, run events = some session ∧
      flush (BoundedQueue.listed UInt8) link [⟨[], [true, true]⟩] session = some final ∧
      final.tx.sent = final.accepted := by
  intro link run events
  have returns : (run events).any (fun session =>
      (flush (BoundedQueue.listed UInt8) link [⟨[], [true, true]⟩] session).any
        fun final => final.tx.connected link) = true := by decide +kernel
  obtain ⟨session, reached, flushed⟩ := (Option.any_eq_true ..).1 returns
  obtain ⟨final, returned, alive⟩ := (Option.any_eq_true ..).1 flushed
  exact ⟨session, final, reached, returned,
    flush_empties_chain () events _ session final reached returned alive⟩

end TxSession

end EspDrone.AsyncTcp

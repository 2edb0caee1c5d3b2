import EspDrone.AsyncTcp.Lifecycle
import EspDrone.Shared.Runs

set_option autoImplicit false

namespace EspDrone.AsyncTcp

-- One control block that lwIP has accepted. `freed` counts what the server itself has given back,
-- and `returned` is what the accept callback and those of the client have answered.
structure Incoming where
  client : Option Client
  returned : List Err
  freed : Nat
  deriving DecidableEq, Repr

-- `opened`, `closed` and `lost` count the control blocks of `begin`: obtained, given back, and not
-- given back because tcp_close failed.
structure Server where
  listening : Bool
  hasCallback : Bool
  opened : Nat
  closed : Nat
  lost : Nat
  connections : List Incoming
  deriving DecidableEq, Repr

-- What lwIP hands to the accept callback; `allocated` is whether the heap has room for a client,
-- `first` and `second` what tcp_close answers, `calls` what the connect callback does.
structure Accepted where
  pcb : Option Pcb
  err : Err
  allocated : Bool
  first : Err
  second : Err
  now : UInt32
  deletes : Bool
  calls : List Call
  deriving DecidableEq, Repr

inductive ServerEvent where
  | onClient (set : Bool)
  | start (created : Bool) (bound : Err) (listens : Bool) (answer : Err)
  | finish
  | accept (accepted : Accepted)
  | live (connection : Nat) (event : LifeEvent)
  deriving DecidableEq, Repr

namespace Server

def initial : Server :=
  { listening := false, hasCallback := false, opened := 0, closed := 0, lost := 0
    connections := [] }

def drop (server : Server) (answer : Err) : Server :=
  if answer = .ok then { server with closed := server.closed + 1 }
  else { server with lost := server.lost + 1 }

def start (server : Server) (created : Bool) (bound : Err) (listens : Bool) (answer : Err) :
    Server :=
  if server.listening || !created then server
  else
    let opened := { server with opened := server.opened + 1 }
    if bound ≠ .ok then opened.drop answer
    else if listens then { opened with listening := true }
    else opened.drop answer

-- end; tcp_abort follows a tcp_close that fails.
def finish (server : Server) : Server :=
  if server.listening then { server with listening := false, closed := server.closed + 1 }
  else server

-- tcp_close, and tcp_abort where it fails: what _accept answers after it.
def closeAccepted (answer : Err) : Err := if answer = .ok then .ok else .abrt

-- _accept: the new connection, with the answer as the first of `returned`.
def acceptPcb (hasCallback : Bool) (accepted : Accepted) (pcb : Pcb) : Incoming :=
  if hasCallback then
    if accepted.allocated then
      let client :=
        (Client.initial (some pcb) accepted.now accepted.deletes).performAll accepted.calls
      let answer := client.tracker.getCallbackCloseError
      { client := some { client with tracker := answer.2 }, returned := [answer.1], freed := 0 }
    else
      if closeAccepted accepted.first = .abrt then
        { client := none, returned := [.abrt], freed := 1 }
      -- The close after the branch comes on top of the one inside it.
      else { client := none, returned := [closeAccepted accepted.second], freed := 2 }
  else { client := none, returned := [closeAccepted accepted.second], freed := 1 }

def accept (server : Server) (accepted : Accepted) : Server :=
  match accepted.pcb with
  | none => server
  | some pcb =>
      if accepted.err ≠ .ok then server
      else { server with
        connections := server.connections ++ [acceptPcb server.hasCallback accepted pcb] }

def step (server : Server) : ServerEvent → Option Server
  | .onClient set => some { server with hasCallback := set }
  | .start created bound listens answer => some (server.start created bound listens answer)
  | .finish => some server.finish
  | .accept accepted => if server.listening then some (server.accept accepted) else none
  | .live index event =>
      (server.connections[index]?).bind fun connection =>
        connection.client.map fun client =>
          let lived := Client.live (client, connection.returned) event
          { server with
            connections := server.connections.set index
              { connection with client := some lived.1, returned := lived.2 } }

end Server

namespace Incoming

def released (connection : Incoming) : Nat :=
  connection.freed + (connection.client.map Client.released).getD 0

def obtained (connection : Incoming) : Nat :=
  (connection.client.map Client.attached).getD 1

end Incoming

-- A control block for which there is no client, closed without an error.
def Accepted.Dropped (accepted : Accepted) : Prop :=
  accepted.pcb.isSome = true ∧ accepted.err = .ok ∧ accepted.allocated = false ∧
    accepted.first = .ok

namespace Server

def Settled (connection : Incoming) : Prop :=
  match connection.client with
  | some client => connection.freed = 0 ∧ client.released + client.held ≤ client.attached
  | none => connection.freed = 1

def Owned (server : Server) : Prop :=
  server.opened = server.closed + server.lost + if server.listening then 1 else 0

def AllSettled (server : Server) : Prop :=
  ∀ connection ∈ server.connections, Settled connection

theorem Settled.released_le {connection : Incoming} (settled : Settled connection) :
    connection.released ≤ connection.obtained := by
  unfold Settled at settled
  unfold Incoming.released Incoming.obtained
  cases made : connection.client with
  | none =>
    simp only [made] at settled
    simp [settled]
  | some client =>
    simp only [made] at settled
    simp only [Option.map_some, Option.getD_some]
    omega

theorem live_grows (client : Client) (returned : List Err) (event : LifeEvent) :
    Client.Grows client (Client.live (client, returned) event).1 := by
  have told := Client.live_told client (client, []) event ⟨.refl client, by simp⟩
  have same : (Client.live (client, returned) event).1 = (Client.live (client, []) event).1 := by
    cases event with
    | call call => rfl
    | callback callback => cases callback <;> rfl
  rw [same]
  exact told.grows

theorem acceptPcb_settled (hasCallback : Bool) (accepted : Accepted) (pcb : Pcb)
    (kept : hasCallback = true → accepted.allocated = false → accepted.first ≠ .ok) :
    Settled (acceptPcb hasCallback accepted pcb) := by
  unfold acceptPcb
  by_cases registered : hasCallback = true
  · rw [if_pos registered]
    by_cases allocated : accepted.allocated = true
    · rw [if_pos allocated]
      have grows := Client.performAll_grows
        (Client.initial (some pcb) accepted.now accepted.deletes) accepted.calls
      exact ⟨rfl, grows.blocks_initial⟩
    · rw [if_neg allocated]
      have failed := kept registered (by simpa using allocated)
      simp only [closeAccepted, failed, if_false, if_true]
      rfl
  · rw [if_neg registered]
    rfl

theorem drop_owned {server : Server} (answer : Err) (still : server.listening = false)
    (own : server.opened = server.closed + server.lost + 1) : Owned (server.drop answer) := by
  unfold drop
  split
  · simp only [Owned, own, still, Bool.false_eq_true, if_false]
    omega
  · simp only [Owned, own, still, Bool.false_eq_true, if_false]
    omega

theorem drop_connections (server : Server) (answer : Err) :
    (server.drop answer).connections = server.connections := by
  unfold drop
  split <;> rfl

theorem start_connections (server : Server) (created : Bool) (bound : Err) (listens : Bool)
    (answer : Err) :
    (server.start created bound listens answer).connections = server.connections := by
  unfold start
  split
  next => rfl
  next =>
    simp only []
    split
    next => exact drop_connections _ _
    next =>
      split
      next => rfl
      next => exact drop_connections _ _

theorem start_owned {server : Server} (own : Owned server) (created : Bool) (bound : Err)
    (listens : Bool) (answer : Err) : Owned (server.start created bound listens answer) := by
  unfold start
  by_cases busy : (server.listening || !created) = true
  · rw [if_pos busy]
    exact own
  · rw [if_neg busy]
    simp only [Bool.or_eq_true, not_or, Bool.not_eq_true] at busy
    simp only [Owned, busy.1, Bool.false_eq_true, if_false, Nat.add_zero] at own
    have dropped : Owned ({ server with opened := server.opened + 1 }.drop answer) :=
      drop_owned answer busy.1 (by simp only [own])
    simp only []
    split
    · exact dropped
    · split
      · simp only [Owned, own, if_true]
      · exact dropped

theorem accept_owned {server : Server} (own : Owned server) (accepted : Accepted) :
    Owned (server.accept accepted) := by
  unfold accept
  split
  next => exact own
  next => split <;> exact own

theorem step_owned (server : Server) (event : ServerEvent) (next : Server)
    (own : Owned server) (taken : step server event = some next) : Owned next := by
  cases event with
  | onClient set => exact Option.some.inj taken ▸ own
  | start created bound listens answer =>
    exact Option.some.inj taken ▸ start_owned own created bound listens answer
  | finish =>
    obtain rfl := Option.some.inj taken
    unfold finish
    split
    next listening =>
      simp only [Owned, listening, if_true] at own
      simp only [Owned, own, Bool.false_eq_true, if_false]
      omega
    next => exact own
  | accept accepted =>
    simp only [step] at taken
    split at taken
    next => exact Option.some.inj taken ▸ accept_owned own accepted
    next => exact absurd taken (by simp)
  | live index event =>
    simp only [step, Option.bind_eq_some_iff, Option.map_eq_some_iff] at taken
    obtain ⟨connection, found, client, made, rfl⟩ := taken
    exact own

def Kept (server : Server) (event : ServerEvent) : Prop :=
  server.hasCallback = true → ∀ accepted, event = .accept accepted → ¬accepted.Dropped

theorem step_settled (server : Server) (event : ServerEvent) (next : Server)
    (settled : AllSettled server) (kept : Kept server event)
    (taken : step server event = some next) : AllSettled next := by
  cases event with
  | onClient set => exact Option.some.inj taken ▸ settled
  | start created bound listens answer =>
    obtain rfl := Option.some.inj taken
    rw [AllSettled, start_connections]
    exact settled
  | finish =>
    obtain rfl := Option.some.inj taken
    unfold finish
    split <;> exact settled
  | accept accepted =>
    simp only [step] at taken
    split at taken
    next listening =>
      obtain rfl := Option.some.inj taken
      unfold accept
      split
      next => exact settled
      next pcb some' =>
        split
        next => exact settled
        next fine =>
          intro connection member
          rcases List.mem_append.1 member with old | new
          · exact settled connection old
          · obtain rfl := List.mem_singleton.1 new
            apply acceptPcb_settled
            intro registered allocated first
            refine kept registered accepted rfl ⟨by rw [some']; rfl, ?_, allocated, first⟩
            simpa using fine
    next => exact absurd taken (by simp)
  | live index event =>
    simp only [step, Option.bind_eq_some_iff, Option.map_eq_some_iff] at taken
    obtain ⟨connection, found, client, made, rfl⟩ := taken
    intro other member
    rcases List.mem_or_eq_of_mem_set member with old | rfl
    · exact settled other old
    · have before := settled connection (List.mem_of_getElem? found)
      simp only [Settled, made] at before
      have blocks := (live_grows client connection.returned event).blocks
      exact ⟨before.1, by omega⟩

def Doubled (server : Server) : Prop :=
  ∃ connection ∈ server.connections, connection.client = none ∧ connection.freed = 2

theorem dropped_doubled {server next : Server} {accepted : Accepted}
    (registered : server.hasCallback = true) (dropped : accepted.Dropped)
    (taken : step server (.accept accepted) = some next) : Doubled next := by
  obtain ⟨some', fine, allocated, first⟩ := dropped
  obtain ⟨pcb, held⟩ := Option.isSome_iff_exists.1 some'
  simp only [step] at taken
  split at taken
  next =>
    obtain rfl := Option.some.inj taken
    refine ⟨acceptPcb true accepted pcb, ?_, ?_⟩
    · simp only [accept, held, fine, ne_eq, not_true, if_false, registered]
      exact List.mem_append.2 (.inr (List.mem_singleton.2 rfl))
    · simp [acceptPcb, allocated, first, closeAccepted]
  next => exact absurd taken (by simp)

theorem step_doubled (server : Server) (event : ServerEvent) (next : Server)
    (doubled : Doubled server) (taken : step server event = some next) : Doubled next := by
  obtain ⟨connection, member, alone, twice⟩ := doubled
  have same (connections : next.connections = server.connections) : Doubled next :=
    ⟨connection, connections ▸ member, alone, twice⟩
  cases event with
  | onClient set => exact same (Option.some.inj taken ▸ rfl)
  | start created bound listens answer =>
    exact same (Option.some.inj taken ▸ start_connections server created bound listens answer)
  | finish =>
    apply same
    obtain rfl := Option.some.inj taken
    unfold finish
    split <;> rfl
  | accept accepted =>
    simp only [step] at taken
    split at taken
    next =>
      obtain rfl := Option.some.inj taken
      refine ⟨connection, ?_, alone, twice⟩
      unfold accept
      split
      next => exact member
      next =>
        split
        next => exact member
        next => exact List.mem_append.2 (.inl member)
    next => exact absurd taken (by simp)
  | live index event =>
    simp only [step, Option.bind_eq_some_iff, Option.map_eq_some_iff] at taken
    obtain ⟨other, found, client, made, rfl⟩ := taken
    obtain ⟨place, inside, here⟩ := List.mem_iff_getElem.1 member
    have apart : index ≠ place := by
      rintro rfl
      rw [List.getElem?_eq_getElem inside, here] at found
      rw [← Option.some.inj found, alone] at made
      exact absurd made (by simp)
    refine ⟨connection, ?_, alone, twice⟩
    rw [List.mem_iff_getElem]
    exact ⟨place, by simpa using inside, by rw [List.getElem_set_ne apart]; exact here⟩

theorem broken_doubled (server : Server) (event : ServerEvent) (next : Server)
    (dropped : ¬Kept server event) (taken : step server event = some next) : Doubled next := by
  simp only [Kept, Classical.not_imp, not_forall, not_not] at dropped
  obtain ⟨registered, accepted, rfl, bad⟩ := dropped
  exact dropped_doubled registered bad taken

/-- In any order of accepts, calls and callbacks, no accepted control block is given back more
often than it was obtained if and only if never, with a connect callback set, the heap had no room
for a client and tcp_close succeeded at once. Those of `begin` are all accounted for. -/
theorem freed_once_iff (events : List ServerEvent) (final : Server)
    (reached : Runs.run step initial events = some final) :
    ((∀ connection ∈ final.connections, connection.released ≤ connection.obtained) ↔
      Runs.Along step Kept initial events) ∧
    final.opened = final.closed + final.lost + if final.listening then 1 else 0 := by
  refine ⟨⟨fun once => ?_, fun along connection member => ?_⟩, ?_⟩
  · by_contra dropped
    obtain ⟨connection, member, alone, twice⟩ :=
      Runs.broken_invariant step Kept (fun _ => True) Doubled (fun _ _ _ _ _ => trivial)
        (fun server event next _ => broken_doubled server event next)
        (fun server event next _ => step_doubled server event next)
        events initial final trivial dropped reached
    have bound := once connection member
    simp [Incoming.released, Incoming.obtained, alone, twice] at bound
  · have settled := Runs.along_invariant step Kept AllSettled step_settled events initial final
      (by simp [AllSettled, initial]) along reached
    exact (settled connection member).released_le
  · exact Runs.run_invariant step Owned step_owned events initial final rfl reached

theorem freed_once_iff_full_heap :
    ¬Runs.Along step Kept initial
      [.onClient true, .start true .ok true .ok,
        .accept ⟨some ⟨4, 100⟩, .ok, false, .ok, .ok, 0, true, []⟩] := by
  let events : List ServerEvent :=
    [.onClient true, .start true .ok true .ok,
      .accept ⟨some ⟨4, 100⟩, .ok, false, .ok, .ok, 0, true, []⟩]
  have reached : ∃ final, Runs.run step initial events = some final ∧
      ∃ connection ∈ final.connections, connection.obtained < connection.released :=
    ⟨_, rfl, _, List.mem_singleton.2 rfl, by decide⟩
  obtain ⟨final, run, connection, member, twice⟩ := reached
  intro along
  have once := (freed_once_iff events final run).1.2 along connection member
  omega

end Server

end EspDrone.AsyncTcp

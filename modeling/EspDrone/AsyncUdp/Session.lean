import EspDrone.AsyncUdp.Socket

set_option autoImplicit false

namespace EspDrone.AsyncUdp

inductive Op where
  | listen (addr : UInt32) (port : UInt16)
  | listenMulticast (addr : UInt32) (port : UInt16) (ttl : UInt8)
  | connect (addr : UInt32) (port : UInt16)
  | close
  | onPacket (set : Bool)
  | writeTo (data : List UInt8) (addr : UInt32) (port : UInt16)
  | write (data : List UInt8)
  | broadcastTo (data : List UInt8) (port : UInt16)
  | broadcast (data : List UInt8)
  | sendTo (message : AsyncUDPMessage) (addr : UInt32) (port : UInt16)
  | send (message : AsyncUDPMessage)
  | broadcastMessageTo (message : AsyncUDPMessage) (port : UInt16)
  | broadcastMessage (message : AsyncUDPMessage)
  deriving DecidableEq, Repr

-- The destination is what lies where the headers of the datagram would be.
structure Pbuf where
  payload : List UInt8
  destIp : UInt32
  destPort : UInt16
  deriving DecidableEq, Repr

structure AsyncUDPPacket where
  localIp : UInt32
  localPort : UInt16
  remoteIp : UInt32
  remotePort : UInt16
  data : List UInt8
  deriving DecidableEq, Repr

-- AsyncUDPPacket::write, which is what print and printf end in.
def AsyncUDPPacket.write (packet : AsyncUDPPacket) (data : List UInt8) : Op :=
  .writeTo data packet.remoteIp packet.remotePort

def Pbuf.packet (pbuf : Pbuf) (addr : UInt32) (port : UInt16) : AsyncUDPPacket :=
  ⟨pbuf.destIp, pbuf.destPort, addr, port, pbuf.payload⟩

-- What a call does to the object; `none` is the read through the NULL pointer of broadcast.
def AsyncUDP.perform (udp : AsyncUDP) (answers : Answers) : Op → Option AsyncUDP
  | .listen addr port => some (udp.listen answers addr port).1
  | .listenMulticast addr port ttl => some (udp.listenMulticast answers addr port ttl).1
  | .connect addr port => some (udp.connect answers addr port).1
  | .close => some udp.close
  | .onPacket _ => some udp
  | .writeTo data addr port => some (udp.writeTo answers data addr port).1
  | .write data => some (udp.write answers data).1
  | .broadcastTo data port => some (udp.broadcastTo answers data port).1
  | .broadcast data => (udp.broadcast answers data).map Prod.fst
  | .sendTo message addr port => some (udp.sendTo answers message addr port).1
  | .send message => some (udp.send answers message).1
  | .broadcastMessageTo message port => some (udp.broadcastMessageTo answers message port).1
  | .broadcastMessage message => (udp.broadcastMessage answers message).map Prod.fst

-- `handler` is _handler != NULL; `packets` were given to it, and `freed` to pbuf_free. The board
-- stops where it has `crashed`.
structure Session where
  udp : AsyncUDP
  handler : Bool
  packets : List AsyncUDPPacket
  freed : List Pbuf
  crashed : Bool
  deriving DecidableEq, Repr

namespace Session

def new : Session :=
  { udp := AsyncUDP.new, handler := false, packets := [], freed := [], crashed := false }

def perform (session : Session) (answers : Answers) (op : Op) : Session :=
  if session.crashed then session
  else
    match session.udp.perform answers op with
    | some udp =>
        { session with
          udp := udp
          handler := match op with
            | .onPacket set => set
            | _ => session.handler }
    | none => { session with crashed := true }

def performAll (session : Session) (calls : List (Answers × Op)) : Session :=
  calls.foldl (fun session call => session.perform call.1 call.2) session

-- `calls` are those the handler makes for the packet.
def handle (session : Session) (packet : AsyncUDPPacket) (calls : List (Answers × Op)) : Session :=
  if session.handler then
    { session with packets := session.packets ++ [packet] }.performAll calls
  else session

-- _recv, where a handler that crashes the board does not return.
def recv (session : Session) (addr : UInt32) (port : UInt16) :
    List (Pbuf × List (Answers × Op)) → Session
  | [] => session
  | (pbuf, calls) :: next =>
      let handled := session.handle (pbuf.packet addr port) calls
      if handled.crashed then handled
      else recv { handled with freed := handled.freed ++ [pbuf] } addr port next

inductive Event where
  | call (answers : Answers) (op : Op)
  | datagram (addr : UInt32) (port : UInt16) (chain : List (Pbuf × List (Answers × Op)))
  deriving DecidableEq, Repr

-- lwIP has nobody to hand a datagram to while the object has no control block.
def step (session : Session) (event : Event) : Option Session :=
  if session.crashed then none
  else
    match event with
    | .call answers op => some (session.perform answers op)
    | .datagram addr port chain =>
        if session.udp.pcb.isSome then some (session.recv addr port chain) else none

def Event.pbufs : Event → List Pbuf
  | .call _ _ => []
  | .datagram _ _ chain => chain.map Prod.fst

def Event.packets : Event → List AsyncUDPPacket
  | .call _ _ => []
  | .datagram addr port chain => chain.map fun piece => piece.1.packet addr port

def Event.Keeps : Event → Prop
  | .call _ op => op ≠ .onPacket false
  | .datagram _ _ chain => ∀ piece ∈ chain, ∀ call ∈ piece.2, call.2 ≠ .onPacket false

instance : DecidablePred Event.Keeps
  | .call _ op => inferInstanceAs (Decidable (op ≠ .onPacket false))
  | .datagram _ _ chain =>
      inferInstanceAs (Decidable (∀ piece ∈ chain, ∀ call ∈ piece.2, call.2 ≠ .onPacket false))

open AsyncUDP

theorem udp_perform_conforms (udp next : AsyncUDP) (answers : Answers) (op : Op)
    (conforms : Conforms udp) (done : udp.perform answers op = some next) : Conforms next := by
  have sends := fun data addr port => writeTo_conforms udp answers data addr port conforms
  have broadcasts : ∀ data sent, udp.broadcast answers data = some sent → Conforms sent.1 := by
    intro data sent broadcast
    obtain ⟨pcb, -, rfl⟩ := Option.map_eq_some_iff.1 broadcast
    split
    next => exact sends ..
    next => exact conforms
  cases op with
  | listen addr port =>
    obtain rfl := Option.some.inj done
    exact (listen_conforms udp answers addr port conforms).1
  | listenMulticast addr port ttl =>
    obtain rfl := Option.some.inj done
    exact (listenMulticast_conforms udp answers addr port ttl conforms).1
  | connect addr port =>
    obtain rfl := Option.some.inj done
    exact (connect_conforms udp answers addr port conforms).1
  | close =>
    obtain rfl := Option.some.inj done
    exact (close_conforms udp conforms).1
  | onPacket set =>
    obtain rfl := Option.some.inj done
    exact conforms
  | writeTo data addr port =>
    obtain rfl := Option.some.inj done
    exact sends data addr port
  | write data =>
    obtain rfl := Option.some.inj done
    simp only [AsyncUDP.write]
    split
    next => exact sends ..
    next => exact conforms
  | broadcastTo data port =>
    obtain rfl := Option.some.inj done
    exact sends ..
  | broadcast data =>
    obtain ⟨sent, broadcast, rfl⟩ := Option.map_eq_some_iff.1 done
    exact broadcasts data sent broadcast
  | sendTo message addr port =>
    obtain rfl := Option.some.inj done
    simp only [AsyncUDP.sendTo]
    split
    next => exact conforms
    next => exact sends ..
  | send message =>
    obtain rfl := Option.some.inj done
    simp only [AsyncUDP.send]
    split
    next =>
      split
      next => exact conforms
      next => exact sends ..
    next => exact conforms
  | broadcastMessageTo message port =>
    obtain rfl := Option.some.inj done
    simp only [AsyncUDP.broadcastMessageTo]
    split
    next => exact conforms
    next => exact sends ..
  | broadcastMessage message =>
    obtain ⟨sent, broadcast, rfl⟩ := Option.map_eq_some_iff.1 done
    simp only [AsyncUDP.broadcastMessage] at broadcast
    split at broadcast
    next =>
      obtain rfl := Option.some.inj broadcast
      exact conforms
    next => exact broadcasts _ sent broadcast

theorem udp_perform_none (udp : AsyncUDP) (answers : Answers) (op : Op)
    (crash : udp.perform answers op = none) : udp.pcb = none := by
  cases op with
  | broadcast data => simpa [AsyncUDP.perform, AsyncUDP.broadcast] using crash
  | broadcastMessage message =>
    simp only [AsyncUDP.perform, AsyncUDP.broadcastMessage, Option.map_eq_none_iff] at crash
    split at crash
    · simp at crash
    · simpa [AsyncUDP.broadcast] using crash
  | _ => simp [AsyncUDP.perform] at crash

structure Sound (session : Session) : Prop where
  conforms : Conforms session.udp
  crashed : session.crashed = true → session.udp.pcb = none

theorem perform_sound (session : Session) (answers : Answers) (op : Op) (sound : Sound session) :
    Sound (session.perform answers op) := by
  unfold perform
  split
  next => exact sound
  next alive =>
    cases done : session.udp.perform answers op with
    | some udp =>
      exact ⟨udp_perform_conforms _ udp answers op sound.conforms done, fun dead =>
        absurd dead alive⟩
    | none => exact ⟨sound.conforms, fun _ => udp_perform_none _ answers op done⟩

theorem performAll_sound (session : Session) (calls : List (Answers × Op))
    (sound : Sound session) : Sound (session.performAll calls) := by
  induction calls generalizing session with
  | nil => exact sound
  | cons call rest ih => exact ih _ (perform_sound session call.1 call.2 sound)

theorem handle_sound (session : Session) (packet : AsyncUDPPacket) (calls : List (Answers × Op))
    (sound : Sound session) : Sound (session.handle packet calls) := by
  unfold handle
  split
  · exact performAll_sound _ calls ⟨sound.conforms, sound.crashed⟩
  · exact sound

theorem recv_sound (session : Session) (addr : UInt32) (port : UInt16)
    (chain : List (Pbuf × List (Answers × Op))) (sound : Sound session) :
    Sound (session.recv addr port chain) := by
  induction chain generalizing session with
  | nil => exact sound
  | cons piece rest ih =>
    have handled := handle_sound session (piece.1.packet addr port) piece.2 sound
    simp only [recv]
    split
    · exact handled
    · exact ih _ ⟨handled.conforms, handled.crashed⟩

theorem step_sound (session next : Session) (event : Event) (sound : Sound session)
    (done : session.step event = some next) : Sound next := by
  simp only [step] at done
  split at done
  next => simp at done
  next =>
    cases event with
    | call answers op =>
      obtain rfl := Option.some.inj done
      exact perform_sound session answers op sound
    | datagram addr port chain =>
      simp only [Option.ite_none_right_eq_some, Option.some.injEq] at done
      obtain ⟨-, rfl⟩ := done
      exact recv_sound session addr port chain sound

/-- Whatever the sketch and its packet handler call, in any order and however lwIP answers, the
calls that reach lwIP keep to its contract: one control block at a time, used only between its
creation and its removal, removed once, and never sent more than a datagram takes. The board
crashes only in a broadcast for which there is no control block. -/
theorem calls_follow_contract (events : List Event) (session : Session)
    (reached : Runs.run step new events = some session) :
    Runs.run follow (.idle 0) session.udp.calls = some session.udp.phase ∧
      session.udp.connected = session.udp.pcb.isSome ∧
      (session.crashed = true → session.udp.pcb = none) := by
  have sound := Runs.run_invariant step Sound
    (fun state event after holds taken => step_sound state after event holds taken)
    events new session ⟨new_conforms, by simp [new]⟩ reached
  exact ⟨sound.conforms.trace, sound.conforms.flag, sound.crashed⟩

theorem calls_follow_contract_reconnect :
    let able : Answers := ⟨true, true, true, 50000, none, true, true, true⟩
    let events : List Event :=
      [.call able (.listen 0 4210), .call able (.onPacket true),
        .datagram 1 5 [(⟨[72, 105], 2, 4210⟩,
          [(able, .close), (able, .writeTo [79] 1 5), (able, .close), (able, .broadcast [80])])]]
    ∃ session, Runs.run step new events = some session ∧
      Runs.run follow (.idle 0) session.udp.calls = some session.udp.phase ∧
      session.udp.connected = session.udp.pcb.isSome ∧
      (session.crashed = true → session.udp.pcb = none) := by
  intro able events
  have reached : Runs.run step new events = some _ := rfl
  exact ⟨_, reached, calls_follow_contract events _ reached⟩

theorem perform_packets (session : Session) (answers : Answers) (op : Op) :
    let next := session.perform answers op
    next.packets = session.packets ∧ next.freed = session.freed ∧
      (op ≠ .onPacket false → session.handler = true → next.handler = true) := by
  simp only [perform]
  split
  next => exact ⟨rfl, rfl, fun _ held => held⟩
  next =>
    cases session.udp.perform answers op with
    | none => exact ⟨rfl, rfl, fun _ held => held⟩
    | some udp =>
      refine ⟨rfl, rfl, fun keeps held => ?_⟩
      cases op with
      | onPacket set =>
        cases set with
        | true => rfl
        | false => exact absurd rfl keeps
      | _ => exact held

theorem performAll_packets (session : Session) (calls : List (Answers × Op)) :
    let next := session.performAll calls
    next.packets = session.packets ∧ next.freed = session.freed ∧
      ((∀ call ∈ calls, call.2 ≠ .onPacket false) → session.handler = true →
        next.handler = true) := by
  induction calls generalizing session with
  | nil => exact ⟨rfl, rfl, fun _ held => held⟩
  | cons call rest ih =>
    obtain ⟨packets, freed, held⟩ := perform_packets session call.1 call.2
    obtain ⟨packets', freed', held'⟩ := ih (session.perform call.1 call.2)
    refine ⟨packets'.trans packets, freed'.trans freed, fun kept was => ?_⟩
    exact held' (fun other member => kept other (.tail _ member))
      (held (kept call (List.mem_cons_self ..)) was)

theorem handle_packets (session : Session) (packet : AsyncUDPPacket)
    (calls : List (Answers × Op)) :
    let next := session.handle packet calls
    next.freed = session.freed ∧
      ((∀ call ∈ calls, call.2 ≠ .onPacket false) → session.handler = true →
        next.handler = true ∧ next.packets = session.packets ++ [packet]) := by
  simp only [handle]
  split
  next held =>
    obtain ⟨packets, freed, stays⟩ := performAll_packets
      { session with packets := session.packets ++ [packet] } calls
    exact ⟨freed, fun keeps _ => ⟨stays keeps held, packets⟩⟩
  next off => exact ⟨rfl, fun _ held => absurd held off⟩

-- A part of a run: what it frees is a first part of `pbufs`, and all of them unless it crashes.
structure Handles (before after : Session) (pbufs : List Pbuf) (packets : List AsyncUDPPacket)
    (keeps : Prop) : Prop where
  freed : after.freed <+: before.freed ++ pbufs
  all : after.crashed = false → after.freed = before.freed ++ pbufs
  packets : after.crashed = false → before.handler = true → keeps →
    after.handler = true ∧ after.packets = before.packets ++ packets

theorem recv_handles (session : Session) (addr : UInt32) (port : UInt16)
    (chain : List (Pbuf × List (Answers × Op))) :
    Handles session (session.recv addr port chain) (chain.map Prod.fst)
      (chain.map fun piece => piece.1.packet addr port)
      (∀ piece ∈ chain, ∀ call ∈ piece.2, call.2 ≠ .onPacket false) := by
  induction chain generalizing session with
  | nil =>
    exact ⟨by simp [recv], fun _ => by simp [recv], fun _ held _ => ⟨held, by simp [recv]⟩⟩
  | cons piece rest ih =>
    obtain ⟨freed, set⟩ := handle_packets session (piece.1.packet addr port) piece.2
    simp only [recv]
    generalize session.handle (piece.1.packet addr port) piece.2 = handled at freed set ⊢
    split
    next dead =>
      refine ⟨?_, fun alive => ?_, fun alive => ?_⟩
      · rw [freed]
        exact List.prefix_append _ _
      · rw [dead] at alive
        simp at alive
      · rw [dead] at alive
        simp at alive
    next =>
      have later := ih { handled with freed := handled.freed ++ [piece.1] }
      refine ⟨?_, fun alive => ?_, fun alive held keeps => ?_⟩
      · simpa [freed] using later.freed
      · simpa [freed] using later.all alive
      · obtain ⟨held', packets⟩ := set (keeps piece (List.mem_cons_self ..)) held
        obtain ⟨last, all⟩ := later.packets alive held'
          fun other member => keeps other (.tail _ member)
        exact ⟨last, by simpa [packets] using all⟩

theorem step_handles (session next : Session) (event : Event)
    (done : session.step event = some next) :
    Handles session next event.pbufs event.packets event.Keeps := by
  simp only [step] at done
  split at done
  next => simp at done
  next =>
    cases event with
    | call answers op =>
      obtain rfl := Option.some.inj done
      obtain ⟨packets, freed, held⟩ := perform_packets session answers op
      simp only [Event.pbufs, Event.packets]
      exact ⟨by simp [freed], fun _ => by simp [freed], fun _ was keeps =>
        ⟨held keeps was, by simp [packets]⟩⟩
    | datagram addr port chain =>
      simp only [Option.ite_none_right_eq_some, Option.some.injEq] at done
      obtain ⟨-, rfl⟩ := done
      exact recv_handles session addr port chain

theorem run_handles (session final : Session) (events : List Event)
    (reached : Runs.run step session events = some final) :
    Handles session final (events.flatMap Event.pbufs) (events.flatMap Event.packets)
      (∀ event ∈ events, event.Keeps) := by
  induction events generalizing session with
  | nil =>
    obtain rfl := Option.some.inj reached
    exact ⟨by simp, fun _ => by simp, fun _ held _ => ⟨held, by simp⟩⟩
  | cons event rest ih =>
    obtain ⟨next, taken, later⟩ := (Runs.run_cons _ _ _ _ _).1 reached
    have first := step_handles session next event taken
    have others := ih next later
    by_cases dead : next.crashed = true
    next =>
      obtain rfl : next = final := by
        cases rest with
        | nil => exact Option.some.inj later
        | cons other rest => simp [Runs.run, step, dead] at later
      refine ⟨?_, fun alive => by simp [dead] at alive, fun alive => by simp [dead] at alive⟩
      rw [List.flatMap_cons, ← List.append_assoc]
      exact first.freed.trans (List.prefix_append _ _)
    next =>
      have alive : next.crashed = false := by simpa using dead
      have freed := first.all alive
      refine ⟨?_, fun whole => ?_, fun whole held keeps => ?_⟩
      · rw [List.flatMap_cons, ← List.append_assoc, ← freed]
        exact others.freed
      · rw [others.all whole, freed, List.append_assoc, List.flatMap_cons]
      · obtain ⟨held', packets⟩ := first.packets alive held (keeps event (List.mem_cons_self ..))
        obtain ⟨last, all⟩ := others.packets whole held'
          fun other member => keeps other (.tail _ member)
        exact ⟨last, by rw [all, packets, List.append_assoc, List.flatMap_cons]⟩

/-- Every buffer lwIP hands over is freed once, in order, and from any point at which a handler is
set each one is a packet of its own while it stays set, also when the handler closes the object or
opens it again between two of them. Where the board crashes, no more buffers are freed. -/
theorem buffers_handled_once (early late : List Event) (middle session : Session)
    (begun : Runs.run step new early = some middle)
    (reached : Runs.run step middle late = some session) :
    session.freed <+: (early ++ late).flatMap Event.pbufs ∧
      (session.crashed = false →
        session.freed = (early ++ late).flatMap Event.pbufs ∧
        (middle.handler = true → (∀ event ∈ late, event.Keeps) →
          session.packets = middle.packets ++ late.flatMap Event.packets)) := by
  have whole : Runs.run step new (early ++ late) = some session := by
    rw [Runs.run_append, begun]
    exact reached
  have all := run_handles new session (early ++ late) whole
  have handled := run_handles middle session late reached
  exact ⟨all.freed, fun alive => ⟨all.all alive, fun held keeps =>
    (handled.packets alive held keeps).2⟩⟩

theorem buffers_handled_once_two :
    let able : Answers := ⟨true, true, true, 50000, none, true, true, true⟩
    let early : List Event := [.call able (.listen 0 4210), .call able (.onPacket true)]
    let late : List Event :=
      [.datagram 1 5 [(⟨[72], 2, 4210⟩, [(able, .close)]), (⟨[105], 7, 7⟩, [])]]
    ∃ middle session, Runs.run step new early = some middle ∧
      Runs.run step middle late = some session ∧
      session.freed = (early ++ late).flatMap Event.pbufs ∧
      session.packets = middle.packets ++ late.flatMap Event.packets := by
  intro able early late
  have begun : Runs.run step new early = some _ := rfl
  refine ⟨_, _, begun, rfl, ?_⟩
  obtain ⟨freed, packets⟩ := (buffers_handled_once early late _ _ begun rfl).2 rfl
  exact ⟨freed, packets rfl (by decide)⟩

end Session

end EspDrone.AsyncUdp

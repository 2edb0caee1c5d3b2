import EspDrone.AsyncUdp.Session
import EspDrone.Shared.Decimal
import Mathlib.Data.List.Perm.Basic

set_option autoImplicit false

namespace EspDrone.AsyncUdp

open CString (Bytes)

def gotBytes (length : Nat) : Bytes :=
  [71, 111, 116, 32] ++ Decimal.digits length ++
    [32, 98, 121, 116, 101, 115, 32, 111, 102, 32, 100, 97, 116, 97]

def reply (answers : Answers) (packet : AsyncUDPPacket) : List (Answers × Op) :=
  [(answers, packet.write (gotBytes packet.data.length))]

-- `hops` counts the replies between the first datagram and this one.
structure Message where
  srcIp : UInt32
  srcPort : UInt16
  dstIp : UInt32
  dstPort : UInt16
  payload : Bytes
  hops : Nat
  deriving DecidableEq, Repr

structure Board where
  ip : UInt32
  session : Session
  deriving DecidableEq, Repr

-- `answered` counts the buffers of the datagrams no board has sent as a reply, `dropped` the
-- replies that the network has lost or that never went out.
structure Network where
  boards : List Board
  inFlight : List Message
  answered : Nat
  dropped : Nat
  deriving DecidableEq, Repr

-- `copy` is what a broadcast or multicast reaches one more board with.
inductive NetworkEvent where
  | start (message : Message)
  | copy (index : Nat)
  | lose (index : Nat)
  | deliver (index board : Nat) (chain : List (Pbuf × Answers))
  deriving DecidableEq, Repr

def Call.message (ip : UInt32) (port : UInt16) (hops : Nat) : Call → Option Message
  | .sendto _ payload addr dstPort true => some ⟨ip, port, addr, dstPort, payload, hops⟩
  | _ => none

section Medium

-- lwIP hands over a datagram of up to `frame` bytes in one buffer; `shared` are the broadcast and
-- multicast addresses.
variable (frame : Nat) (shared : UInt32 → Bool)

def Carries (message : Message) (chain : List (Pbuf × Answers)) : Prop :=
  (chain.map fun piece => piece.1.payload).flatten = message.payload ∧ chain ≠ [] ∧
    (message.payload.length ≤ frame → chain.length = 1)

instance (message : Message) (chain : List (Pbuf × Answers)) :
    Decidable (Carries frame message chain) :=
  inferInstanceAs (Decidable (_ ∧ _ ∧ (_ → _)))

-- What the board puts on the network while _recv runs for the message. lwIP takes none from an
-- address that is not one host's.
def Board.receive (board : Board) (message : Message) (chain : List (Pbuf × Answers)) :
    Option (Board × List Message) :=
  match board.session.udp.pcb with
  | none => none
  | some pcb =>
      if (message.dstIp = board.ip ∨ shared message.dstIp = true) ∧
          message.dstPort = pcb.localPort ∧ shared message.srcIp = false ∧
          Carries frame message chain then
        let packet := fun pbuf : Pbuf => pbuf.packet message.srcIp message.srcPort
        (board.session.step (.datagram message.srcIp message.srcPort
            (chain.map fun piece => (piece.1, reply piece.2 (packet piece.1))))).map fun after =>
          ({ board with session := after },
            (after.udp.calls.drop board.session.udp.calls.length).filterMap
              (Call.message board.ip pcb.localPort (message.hops + 1)))
      else none

namespace Network

def step (network : Network) : NetworkEvent → Option Network
  | .start message =>
      if message.payload.length < 65536 ∧ message.hops = 0 then
        some { network with inFlight := network.inFlight ++ [message] }
      else none
  | .copy index =>
      (network.inFlight[index]?).bind fun message =>
        if shared message.dstIp then
          some { network with inFlight := network.inFlight ++ [message] }
        else none
  | .lose index =>
      (network.inFlight[index]?).map fun message =>
        { network with
          inFlight := network.inFlight.eraseIdx index
          dropped := network.dropped + if message.hops = 0 then 0 else 1 }
  | .deliver index board chain =>
      match network.inFlight[index]?, network.boards[board]? with
      | some message, some receiver =>
          (receiver.receive frame shared message chain).map fun answered =>
            { network with
              boards := network.boards.set board answered.1
              inFlight := network.inFlight.eraseIdx index ++ answered.2
              answered := network.answered + if message.hops = 0 then chain.length else 0
              dropped := network.dropped + (chain.length - answered.2.length) }
      | _, _ => none

end Network

end Medium

structure Session.Serves (session : Session) (pcb : Pcb) : Prop where
  held : session.udp.pcb = some pcb
  handler : session.handler = true
  crashed : session.crashed = false

def Board.Serves (board : Board) : Prop := ∃ pcb, board.session.Serves pcb

theorem writeTo_open (udp : AsyncUDP) (answers : Answers) (data : Bytes) (addr : UInt32)
    (port : UInt16) (pcb : Pcb) (held : udp.pcb = some pcb) :
    (udp.writeTo answers data addr port).1 =
      if answers.alloc then udp.log (.sendto pcb.id (data.take maxPayload) addr port answers.sent)
      else udp := by
  simp only [AsyncUDP.writeTo, held, Option.isNone_some, Bool.false_eq_true, if_false]
  cases answers.alloc <;> rfl

def replyCall (id : Nat) (addr : UInt32) (port : UInt16) (piece : Pbuf × Answers) :
    Option Call :=
  if piece.2.alloc then
    some (.sendto id ((gotBytes piece.1.payload.length).take maxPayload) addr port piece.2.sent)
  else none

theorem handle_reply (session : Session) (pcb : Pcb) (serves : session.Serves pcb)
    (addr : UInt32) (port : UInt16) (piece : Pbuf × Answers) :
    let packet := piece.1.packet addr port
    let after := session.handle packet (reply piece.2 packet)
    after.Serves pcb ∧
      after.udp.calls = session.udp.calls ++ (replyCall pcb.id addr port piece).toList := by
  have wrote := writeTo_open session.udp piece.2 (gotBytes piece.1.payload.length) addr port pcb
    serves.held
  simp only [Session.handle, serves.handler, if_true, reply, Pbuf.packet, AsyncUDPPacket.write,
    Session.performAll, List.foldl_cons, List.foldl_nil, Session.perform, serves.crashed,
    AsyncUDP.perform, wrote, replyCall, Bool.false_eq_true, if_false]
  cases piece.2.alloc with
  | true => exact ⟨⟨serves.held, rfl, rfl⟩, rfl⟩
  | false => exact ⟨⟨serves.held, rfl, rfl⟩, by simp⟩

theorem recv_replies (session : Session) (pcb : Pcb) (serves : session.Serves pcb)
    (addr : UInt32) (port : UInt16) (chain : List (Pbuf × Answers)) :
    let after := session.recv addr port
      (chain.map fun piece => (piece.1, reply piece.2 (piece.1.packet addr port)))
    after.Serves pcb ∧
      after.udp.calls = session.udp.calls ++ chain.filterMap (replyCall pcb.id addr port) := by
  induction chain generalizing session with
  | nil => exact ⟨serves, by simp [Session.recv]⟩
  | cons piece rest ih =>
    obtain ⟨serves', calls⟩ := handle_reply session pcb serves addr port piece
    simp only [List.map_cons, Session.recv]
    generalize session.handle _ _ = handled at serves' calls ⊢
    obtain ⟨serves'', all⟩ := ih { handled with freed := handled.freed ++ [piece.1] }
      ⟨serves'.held, serves'.handler, serves'.crashed⟩
    rw [if_neg (by simp [serves'.crashed])]
    refine ⟨serves'', all.trans ?_⟩
    rw [calls, List.append_assoc]
    cases called : replyCall pcb.id addr port piece <;> simp [called]

theorem digits_length_le (n : Nat) :
    (Decimal.digits n).length ≤ (Decimal.digits (n / 10)).length + 1 := by
  by_cases small : n < 10
  · rw [Decimal.digits_of_lt small, List.length_singleton]
    exact Nat.le_add_left ..
  · rw [Decimal.digits_of_ge (by omega), List.length_append, List.length_singleton]

theorem digits_length (n : Nat) (small : n < 65536) : (Decimal.digits n).length ≤ 5 := by
  have first := digits_length_le n
  have second := digits_length_le (n / 10)
  have third := digits_length_le (n / 10 / 10)
  have fourth := digits_length_le (n / 10 / 10 / 10)
  rw [Decimal.digits_of_lt (by omega : n / 10 / 10 / 10 / 10 < 10), List.length_singleton]
    at fourth
  omega

theorem gotBytes_length (n : Nat) : (gotBytes n).length = 18 + (Decimal.digits n).length := by
  simp only [gotBytes, List.length_append, List.length_cons, List.length_nil]
  omega

def Message.reply (message : Message) (ip : UInt32) (piece : Pbuf × Answers) : Option Message :=
  if piece.2.alloc && piece.2.sent then
    some ⟨ip, message.dstPort, message.srcIp, message.srcPort,
      (gotBytes piece.1.payload.length).take maxPayload, message.hops + 1⟩
  else none

theorem receive_serves {frame : Nat} {shared : UInt32 → Bool} (board after : Board)
    (message : Message) (chain : List (Pbuf × Answers)) (sent : List Message)
    (serves : board.Serves)
    (received : board.receive frame shared message chain = some (after, sent)) :
    after.Serves ∧ sent = chain.filterMap (message.reply board.ip) ∧
      shared message.srcIp = false ∧ Carries frame message chain := by
  obtain ⟨pcb, serves⟩ := serves
  simp only [Board.receive, serves.held] at received
  split at received
  next fits =>
    obtain ⟨-, port, host, carries⟩ := fits
    obtain ⟨serves', calls⟩ := recv_replies board.session pcb serves message.srcIp
      message.srcPort chain
    simp only [Session.step, serves.crashed, serves.held, Option.isSome_some, if_true,
      Bool.false_eq_true, if_false, Option.map_some, Option.some.injEq, Prod.mk.injEq]
      at received
    obtain ⟨rfl, rfl⟩ := received
    refine ⟨⟨pcb, serves'⟩, ?_, host, carries⟩
    rw [calls, List.drop_left, List.filterMap_filterMap]
    congr 1
    funext piece
    simp only [replyCall, Message.reply, port]
    cases piece.2.alloc <;> cases piece.2.sent <;> rfl
  next => simp at received

theorem reply_settles (n : Nat) (small : n < 65536) :
    gotBytes (gotBytes (gotBytes n).length).length = gotBytes 20 := by
  have some' := List.length_pos_iff.2 (Decimal.digits_ne_nil n)
  have few := digits_length n small
  have two : ∀ m, 10 ≤ m → m < 100 → (Decimal.digits m).length = 2 := by
    intro m large below
    rw [Decimal.digits_of_ge large, Decimal.digits_of_lt (by omega)]
    rfl
  have first := gotBytes_length n
  rw [gotBytes_length (gotBytes n).length, two (gotBytes n).length (by omega) (by omega)]

-- Every datagram that is the third reply or later says the same, and a reply has one receiver.
structure Message.Settled (shared : UInt32 → Bool) (message : Message) : Prop where
  small : message.payload.length < 65536
  host : 1 ≤ message.hops → shared message.dstIp = false
  first : 1 ≤ message.hops → ∃ n, n < 65536 ∧ message.payload = gotBytes n
  second : 2 ≤ message.hops → ∃ n, n < 65536 ∧ message.payload = gotBytes (gotBytes n).length
  third : 3 ≤ message.hops → message.payload = gotBytes 20

structure Network.Balanced (shared : UInt32 → Bool) (network : Network) : Prop where
  serves : ∀ board ∈ network.boards, board.Serves
  flight : (network.inFlight.countP fun message => message.hops ≠ 0) + network.dropped =
    network.answered
  settled : ∀ message ∈ network.inFlight, message.Settled shared

theorem gotBytes_short (n : Nat) (small : n < 65536) : (gotBytes n).length ≤ 23 := by
  have few := digits_length n small
  rw [gotBytes_length]
  omega

theorem carries_reply {frame : Nat} {shared : UInt32 → Bool} {message : Message}
    {chain : List (Pbuf × Answers)} (roomy : 23 ≤ frame) (settled : message.Settled shared)
    (replied : 1 ≤ message.hops) (carries : Carries frame message chain) :
    ∃ piece, chain = [piece] ∧ piece.1.payload = message.payload := by
  obtain ⟨n, below, text⟩ := settled.first replied
  have short := gotBytes_short n below
  rw [← text] at short
  obtain ⟨piece, rfl⟩ := List.length_eq_one_iff.1 (carries.2.2 (Nat.le_trans short roomy))
  exact ⟨piece, rfl, by simpa using carries.1⟩

theorem reply_settled {frame : Nat} {shared : UInt32 → Bool} {message sent : Message}
    {ip : UInt32} {chain : List (Pbuf × Answers)} {piece : Pbuf × Answers} (roomy : 23 ≤ frame)
    (settled : message.Settled shared) (host : shared message.srcIp = false)
    (carries : Carries frame message chain) (member : piece ∈ chain)
    (replied : message.reply ip piece = some sent) : sent.Settled shared := by
  have small : piece.1.payload.length < 65536 := by
    have part := (List.sublist_flatten_of_mem
      (List.mem_map_of_mem (f := fun piece : Pbuf × Answers => piece.1.payload) member)).length_le
    rw [carries.1] at part
    exact Nat.lt_of_le_of_lt part settled.small
  have short := gotBytes_short piece.1.payload.length small
  have whole : (gotBytes piece.1.payload.length).take maxPayload =
      gotBytes piece.1.payload.length :=
    List.take_of_length_le (Nat.le_trans short (by decide))
  have answered (late : 1 ≤ message.hops) : piece.1.payload = message.payload := by
    obtain ⟨only, rfl, same⟩ := carries_reply roomy settled late carries
    rw [List.mem_singleton.1 member]
    exact same
  simp only [Message.reply, whole, Option.ite_none_right_eq_some, Option.some.injEq] at replied
  obtain ⟨-, rfl⟩ := replied
  refine ⟨?_, fun _ => host, fun _ => ⟨_, small, rfl⟩, fun late => ?_, fun late => ?_⟩
  · simp only []
    omega
  · have before : 1 ≤ message.hops := Nat.le_of_succ_le_succ late
    obtain ⟨n, below, text⟩ := settled.first before
    exact ⟨n, below, by rw [answered before, text]⟩
  · have before : 2 ≤ message.hops := Nat.le_of_succ_le_succ late
    obtain ⟨n, below, text⟩ := settled.second before
    simp only [answered (Nat.le_of_succ_le before), text]
    exact reply_settles n below

namespace Network

variable {frame : Nat} {shared : UInt32 → Bool}

theorem countP_eraseIdx (messages : List Message) (index : Nat) (inside : index < messages.length) :
    (messages.countP fun message => message.hops ≠ 0) =
      ((messages.eraseIdx index).countP fun message => message.hops ≠ 0) +
        if messages[index].hops = 0 then 0 else 1 := by
  rw [← (List.getElem_cons_eraseIdx_perm inside).countP_eq, List.countP_cons]
  by_cases start : messages[index].hops = 0 <;> simp [start]

theorem reply_hops (message sent : Message) (ip : UInt32) (piece : Pbuf × Answers)
    (replied : message.reply ip piece = some sent) : sent.hops ≠ 0 := by
  simp only [Message.reply, Option.ite_none_right_eq_some, Option.some.injEq] at replied
  obtain ⟨-, rfl⟩ := replied
  exact Nat.succ_ne_zero _

theorem countP_replies (message : Message) (ip : UInt32) (chain : List (Pbuf × Answers)) :
    ((chain.filterMap (message.reply ip)).countP fun sent => sent.hops ≠ 0) =
      (chain.filterMap (message.reply ip)).length := by
  rw [List.countP_eq_length]
  intro sent member
  obtain ⟨piece, -, replied⟩ := List.mem_filterMap.1 member
  simpa using reply_hops message sent ip piece replied

theorem step_balanced (roomy : 23 ≤ frame) (network next : Network) (event : NetworkEvent)
    (balanced : network.Balanced shared) (done : network.step frame shared event = some next) :
    next.Balanced shared := by
  have flight := balanced.flight
  cases event with
  | start message =>
    simp only [step, Option.ite_none_right_eq_some, Option.some.injEq] at done
    obtain ⟨⟨small, first⟩, rfl⟩ := done
    refine ⟨balanced.serves, ?_, fun other member => ?_⟩
    · simpa [List.countP_append, first] using flight
    · rcases List.mem_append.1 member with old | new
      · exact balanced.settled other old
      · rw [List.mem_singleton.1 new]
        exact ⟨small, by simp [first], by simp [first], by simp [first], by simp [first]⟩
  | copy index =>
    obtain ⟨message, found, copied⟩ := Option.bind_eq_some_iff.1 done
    simp only [Option.ite_none_right_eq_some, Option.some.injEq] at copied
    obtain ⟨group, rfl⟩ := copied
    have settled := balanced.settled message (List.mem_of_getElem? found)
    have first : message.hops = 0 := by
      by_contra replied
      rw [settled.host (Nat.pos_of_ne_zero replied)] at group
      exact Bool.false_ne_true group
    refine ⟨balanced.serves, ?_, fun other member => ?_⟩
    · simpa [List.countP_append, first] using flight
    · rcases List.mem_append.1 member with old | new
      · exact balanced.settled other old
      · rw [List.mem_singleton.1 new]
        exact settled
  | lose index =>
    obtain ⟨message, found, rfl⟩ := Option.map_eq_some_iff.1 done
    obtain ⟨inside, rfl⟩ := List.getElem?_eq_some_iff.1 found
    refine ⟨balanced.serves, ?_, fun other member =>
      balanced.settled other (List.mem_of_mem_eraseIdx member)⟩
    have count := countP_eraseIdx network.inFlight index inside
    simp only []
    omega
  | deliver index board chain =>
    simp only [step] at done
    split at done
    next message receiver found there =>
      obtain ⟨⟨after, sent⟩, received, rfl⟩ := Option.map_eq_some_iff.1 done
      obtain ⟨inside, rfl⟩ := List.getElem?_eq_some_iff.1 found
      have serves := balanced.serves receiver (List.mem_of_getElem? there)
      obtain ⟨serves', rfl, host, carries⟩ := receive_serves receiver after _ chain sent serves
        received
      have settled := balanced.settled _ (List.getElem_mem inside)
      refine ⟨fun other member => ?_, ?_, fun other member => ?_⟩
      · rcases List.mem_or_eq_of_mem_set member with old | rfl
        · exact balanced.serves other old
        · exact serves'
      · have count := countP_eraseIdx network.inFlight index inside
        have fewer := List.length_filterMap_le
          (network.inFlight[index].reply receiver.ip) chain
        rw [List.countP_append, countP_replies]
        by_cases start : network.inFlight[index].hops = 0
        · simp only [start, if_true] at count ⊢
          omega
        · obtain ⟨piece, rfl, -⟩ := carries_reply roomy settled (Nat.pos_of_ne_zero start) carries
          simp only [start, if_false] at count ⊢
          simp only [List.length_singleton] at fewer ⊢
          omega
      · rcases List.mem_append.1 member with old | new
        · exact balanced.settled other (List.mem_of_mem_eraseIdx old)
        · obtain ⟨piece, inChain, replied⟩ := List.mem_filterMap.1 new
          exact reply_settled roomy settled host carries inChain replied
    next => simp at done

end Network

end EspDrone.AsyncUdp

import EspDrone.Shared.Runs

set_option autoImplicit false

namespace EspDrone.AsyncUdp

-- IPADDR_ANY, the address of broadcastTo, and the most that goes into one datagram.
def ipAddrAny : UInt32 := 0
def ipAddrBroadcast : UInt32 := 0xFFFFFFFF
def maxPayload : Nat := 1460

inductive Call where
  | new (id : Nat)
  | bind (id : Nat) (addr : UInt32) (port : UInt16) (ok : Bool)
  | connect (id : Nat) (addr : UInt32) (port : UInt16) (ok : Bool)
  | recv (id : Nat)
  | joinGroup (addr : UInt32) (ok : Bool)
  | setMulticast (id : Nat) (interface : UInt32) (ttl : UInt8)
  | sendto (id : Nat) (payload : List UInt8) (addr : UInt32) (port : UInt16) (ok : Bool)
  | disconnect (id : Nat)
  | remove (id : Nat)
  deriving DecidableEq, Repr

structure Pcb where
  id : Nat
  localPort : UInt16
  remoteIp : UInt32
  remotePort : UInt16
  deriving DecidableEq, Repr

-- `localPort` is the port lwIP picks where the sketch leaves it to lwIP, `interface` the address
-- chosen by wifi_get_opmode, and `sent` says that udp_sendto does not return an error.
structure Answers where
  new : Bool
  bind : Bool
  connect : Bool
  localPort : UInt16
  interface : Option UInt32
  join : Bool
  alloc : Bool
  sent : Bool
  deriving DecidableEq, Repr

structure AsyncUDPMessage where
  buffer : Bool
  data : List UInt8
  size : Nat
  deriving DecidableEq, Repr

namespace AsyncUDPMessage

def new (allocated : Bool) (size : Nat) : AsyncUDPMessage :=
  { buffer := allocated, data := [], size := if size > maxPayload then maxPayload else size }

def space (message : AsyncUDPMessage) : Nat :=
  if message.buffer then message.size - message.data.length else 0

def write (message : AsyncUDPMessage) (bytes : List UInt8) : AsyncUDPMessage × Nat :=
  if !message.buffer then (message, 0)
  else
    let len := if bytes.length > message.space then message.space else bytes.length
    ({ message with data := message.data ++ bytes.take len }, len)

def flush (message : AsyncUDPMessage) : AsyncUDPMessage := { message with data := [] }

end AsyncUDPMessage

structure AsyncUDP where
  pcb : Option Pcb
  connected : Bool
  created : Nat
  calls : List Call
  deriving DecidableEq, Repr

namespace AsyncUDP

def new : AsyncUDP := { pcb := none, connected := false, created := 0, calls := [] }

def log (udp : AsyncUDP) (call : Call) : AsyncUDP := { udp with calls := udp.calls ++ [call] }

def close (udp : AsyncUDP) : AsyncUDP :=
  match udp.pcb with
  | none => udp
  | some pcb =>
      let disconnected := if udp.connected then udp.log (.disconnect pcb.id) else udp
      { disconnected.log (.remove pcb.id) with connected := false, pcb := none }

-- What listen and connect have in common: `call` is udp_bind or udp_connect, and `bound` the
-- control block after it.
def openWith (udp : AsyncUDP) (new ok : Bool) (call : Nat → Call) (bound : Nat → Pcb) :
    AsyncUDP × Bool :=
  let closed := udp.close
  if !new then (closed, false)
  else
    let id := closed.created
    let fresh := { closed.log (.new id) with pcb := some ⟨id, 0, 0, 0⟩, created := id + 1 }
    let tried := fresh.log (call id)
    if !ok then (tried.close, false)
    else ({ tried.log (.recv id) with pcb := some (bound id), connected := true }, true)

def listen (udp : AsyncUDP) (answers : Answers) (addr : UInt32) (port : UInt16) :
    AsyncUDP × Bool :=
  udp.openWith answers.new answers.bind (fun id => .bind id addr port answers.bind) fun id =>
    ⟨id, if port = 0 then answers.localPort else port, 0, 0⟩

def connect (udp : AsyncUDP) (answers : Answers) (addr : UInt32) (port : UInt16) :
    AsyncUDP × Bool :=
  udp.openWith answers.new answers.connect (fun id => .connect id addr port answers.connect)
    fun id => ⟨id, answers.localPort, addr, port⟩

-- ip_addr_ismulticast: the first octet is the low byte.
def isMulticast (addr : UInt32) : Bool := addr &&& 0xF0 == 0xE0

def listenMulticast (udp : AsyncUDP) (answers : Answers) (addr : UInt32) (port : UInt16)
    (ttl : UInt8) : AsyncUDP × Bool :=
  let closed := udp.close
  if !(isMulticast addr) then (closed, false)
  else
    match answers.interface with
    | none => (closed, false)
    | some interface =>
        let joined := closed.log (.joinGroup addr answers.join)
        if !answers.join then (joined, false)
        else
          let listening := joined.listen answers ipAddrAny port
          match listening.2, listening.1.pcb with
          | true, some pcb =>
              ({ listening.1.log (.setMulticast pcb.id interface ttl) with
                pcb := some { pcb with remoteIp := addr, remotePort := port } }, true)
          | _, _ => (listening.1, false)

def writeTo (udp : AsyncUDP) (answers : Answers) (data : List UInt8) (addr : UInt32)
    (port : UInt16) : AsyncUDP × Nat :=
  let ready := if udp.pcb.isNone then udp.connect answers addr port else (udp, true)
  match ready.2, ready.1.pcb with
  | true, some pcb =>
      let payload := data.take maxPayload
      if !answers.alloc then (ready.1, 0)
      else
        (ready.1.log (.sendto pcb.id payload addr port answers.sent),
          if answers.sent then payload.length else 0)
  | _, _ => (ready.1, 0)

def write (udp : AsyncUDP) (answers : Answers) (data : List UInt8) : AsyncUDP × Nat :=
  match udp.pcb with
  | some pcb => udp.writeTo answers data pcb.remoteIp pcb.remotePort
  | none => (udp, 0)

def broadcastTo (udp : AsyncUDP) (answers : Answers) (data : List UInt8) (port : UInt16) :
    AsyncUDP × Nat :=
  udp.writeTo answers data ipAddrBroadcast port

-- `none` is the read through the NULL pointer: nothing asks for _pcb first.
def broadcast (udp : AsyncUDP) (answers : Answers) (data : List UInt8) :
    Option (AsyncUDP × Nat) :=
  udp.pcb.map fun pcb =>
    if pcb.localPort != 0 then udp.broadcastTo answers data pcb.localPort else (udp, 0)

def sendTo (udp : AsyncUDP) (answers : Answers) (message : AsyncUDPMessage) (addr : UInt32)
    (port : UInt16) : AsyncUDP × Nat :=
  if !message.buffer then (udp, 0) else udp.writeTo answers message.data addr port

def send (udp : AsyncUDP) (answers : Answers) (message : AsyncUDPMessage) : AsyncUDP × Nat :=
  match udp.pcb with
  | some pcb =>
      if !message.buffer then (udp, 0)
      else udp.writeTo answers message.data pcb.remoteIp pcb.remotePort
  | none => (udp, 0)

def broadcastMessageTo (udp : AsyncUDP) (answers : Answers) (message : AsyncUDPMessage)
    (port : UInt16) : AsyncUDP × Nat :=
  if !message.buffer then (udp, 0) else udp.broadcastTo answers message.data port

def broadcastMessage (udp : AsyncUDP) (answers : Answers) (message : AsyncUDPMessage) :
    Option (AsyncUDP × Nat) :=
  if !message.buffer then some (udp, 0) else udp.broadcast answers message.data

end AsyncUDP

-- Control blocks are numbered in the order in which lwIP gives them.
inductive Phase where
  | idle (next : Nat)
  | fresh (id : Nat)
  | bound (id : Nat)
  | ready (id : Nat)
  | disconnected (id : Nat)
  deriving DecidableEq, Repr

def follow : Phase → Call → Option Phase
  | .idle next, .new id => if id = next then some (.fresh id) else none
  | .fresh id, .bind other _ _ ok | .fresh id, .connect other _ _ ok =>
      if other = id then some (if ok then .bound id else .fresh id) else none
  | .fresh id, .remove other | .disconnected id, .remove other =>
      if other = id then some (.idle (id + 1)) else none
  | .bound id, .recv other => if other = id then some (.ready id) else none
  | .ready id, .setMulticast other _ _ => if other = id then some (.ready id) else none
  | .ready id, .sendto other payload _ _ _ =>
      if other = id ∧ payload.length ≤ maxPayload then some (.ready id) else none
  | .ready id, .disconnect other => if other = id then some (.disconnected id) else none
  | .idle next, .joinGroup _ _ => some (.idle next)
  | _, _ => none

namespace AsyncUDP

def phase (udp : AsyncUDP) : Phase :=
  match udp.pcb with
  | none => .idle udp.created
  | some pcb => .ready pcb.id

-- The calls so far keep to the contract and end in `phase`.
def At (udp : AsyncUDP) (phase : Phase) : Prop :=
  Runs.run follow (.idle 0) udp.calls = some phase

structure Conforms (udp : AsyncUDP) : Prop where
  flag : udp.connected = udp.pcb.isSome
  id : ∀ pcb, udp.pcb = some pcb → pcb.id + 1 = udp.created
  trace : udp.At udp.phase

theorem new_conforms : Conforms new where
  flag := rfl
  id := by simp [new]
  trace := rfl

theorem log_at (udp : AsyncUDP) (call : Call) (before after : Phase) (held : udp.At before)
    (goes : follow before call = some after) : (udp.log call).At after := by
  simp only [At, log, Runs.run_append] at held ⊢
  simp [held, Runs.run, goes]

theorem close_conforms (udp : AsyncUDP) (conforms : Conforms udp) :
    Conforms udp.close ∧ udp.close.pcb = none := by
  have trace := conforms.trace
  cases held : udp.pcb with
  | none =>
    have same : udp.close = udp := by simp [close, held]
    rw [same]
    exact ⟨conforms, held⟩
  | some pcb =>
    have created := conforms.id pcb held
    have flag : udp.connected = true := by rw [conforms.flag, held, Option.isSome_some]
    simp only [phase, held] at trace
    have left := log_at udp (.disconnect pcb.id) _ (.disconnected pcb.id) trace (by simp [follow])
    have gone := log_at _ (.remove pcb.id) _ (.idle (pcb.id + 1)) left (by simp [follow])
    simp only [close, held, flag, if_true]
    rw [created] at gone
    exact ⟨⟨rfl, by simp, gone⟩, trivial⟩

theorem openWith_conforms (udp : AsyncUDP) (new ok : Bool) (call : Nat → Call)
    (bound : Nat → Pcb) (conforms : Conforms udp)
    (goes : ∀ id, follow (.fresh id) (call id) = some (if ok then .bound id else .fresh id))
    (named : ∀ id, (bound id).id = id) :
    let opened := udp.openWith new ok call bound
    Conforms opened.1 ∧ opened.1.pcb.isSome = opened.2 := by
  obtain ⟨closed, nothing⟩ := close_conforms udp conforms
  simp only [openWith]
  generalize udp.close = base at closed nothing ⊢
  have flag : base.connected = false := by rw [closed.flag, nothing, Option.isSome_none]
  have start := closed.trace
  simp only [phase, nothing] at start
  have fresh := log_at _ (.new base.created) _ (.fresh base.created) start (by simp [follow])
  have tried := log_at _ (call base.created) _ _ fresh (goes base.created)
  cases new with
  | false => exact ⟨closed, congrArg Option.isSome nothing⟩
  | true =>
    cases ok with
    | false =>
      have gone := log_at _ (.remove base.created) _ (.idle (base.created + 1)) tried
        (by simp [follow])
      refine ⟨⟨?_, ?_, ?_⟩, ?_⟩
      · simp [close, log, flag]
      · simp [close, log]
      · simpa [close, log, flag, phase, At] using gone
      · simp [close, log]
    | true =>
      have ready := log_at _ (.recv base.created) _ (.ready base.created) tried
        (by simp [follow])
      refine ⟨⟨rfl, fun pcb same => ?_, ?_⟩, rfl⟩
      · obtain rfl := Option.some.inj same
        exact congrArg (· + 1) (named _)
      · simpa [log, phase, At, named] using ready

theorem listen_conforms (udp : AsyncUDP) (answers : Answers) (addr : UInt32) (port : UInt16)
    (conforms : Conforms udp) :
    Conforms (udp.listen answers addr port).1 ∧
      (udp.listen answers addr port).1.pcb.isSome = (udp.listen answers addr port).2 :=
  openWith_conforms udp _ _ _ _ conforms (fun _ => by simp [follow]) fun _ => rfl

theorem connect_conforms (udp : AsyncUDP) (answers : Answers) (addr : UInt32) (port : UInt16)
    (conforms : Conforms udp) :
    Conforms (udp.connect answers addr port).1 ∧
      (udp.connect answers addr port).1.pcb.isSome = (udp.connect answers addr port).2 :=
  openWith_conforms udp _ _ _ _ conforms (fun _ => by simp [follow]) fun _ => rfl

theorem join_conforms (udp : AsyncUDP) (addr : UInt32) (ok : Bool) (conforms : Conforms udp)
    (nothing : udp.pcb = none) : Conforms (udp.log (.joinGroup addr ok)) := by
  have trace := conforms.trace
  simp only [phase, nothing] at trace
  have joined := log_at udp (.joinGroup addr ok) _ (.idle udp.created) trace (by simp [follow])
  exact ⟨conforms.flag, conforms.id, by simpa [phase, log, nothing, At] using joined⟩

theorem listenMulticast_conforms (udp : AsyncUDP) (answers : Answers) (addr : UInt32)
    (port : UInt16) (ttl : UInt8) (conforms : Conforms udp) :
    let opened := udp.listenMulticast answers addr port ttl
    Conforms opened.1 ∧ opened.1.pcb.isSome = opened.2 := by
  obtain ⟨closed, nothing⟩ := close_conforms udp conforms
  have shut : udp.close.pcb.isSome = false := by rw [nothing, Option.isSome_none]
  simp only [listenMulticast]
  split
  next => exact ⟨closed, shut⟩
  next =>
    cases answers.interface with
    | none => exact ⟨closed, shut⟩
    | some interface =>
      have joined := join_conforms _ addr answers.join closed nothing
      simp only []
      split
      next => exact ⟨joined, shut⟩
      next =>
        obtain ⟨listening, flag⟩ := listen_conforms _ answers ipAddrAny port joined
        generalize listen _ answers ipAddrAny port = opened at listening flag ⊢
        obtain ⟨udp', returned⟩ := opened
        simp only [] at listening flag ⊢
        cases held : udp'.pcb with
        | none =>
          rw [held] at flag
          subst flag
          exact ⟨listening, by simp [held]⟩
        | some pcb =>
          rw [held] at flag
          subst flag
          have trace := listening.trace
          simp only [phase, held] at trace
          have set' := log_at udp' (.setMulticast pcb.id interface ttl) _ (.ready pcb.id) trace
            (by simp [follow])
          refine ⟨⟨?_, fun other same => ?_, ?_⟩, rfl⟩
          · exact listening.flag.trans (by rw [held]; rfl)
          · obtain rfl := Option.some.inj same
            exact listening.id pcb held
          · simpa [phase, log, At] using set'

theorem writeTo_conforms (udp : AsyncUDP) (answers : Answers) (data : List UInt8)
    (addr : UInt32) (port : UInt16) (conforms : Conforms udp) :
    Conforms (udp.writeTo answers data addr port).1 := by
  have ready : Conforms (if udp.pcb.isNone then udp.connect answers addr port
      else (udp, true)).1 := by
    split
    next => exact (connect_conforms udp answers addr port conforms).1
    next => exact conforms
  simp only [writeTo]
  generalize (if udp.pcb.isNone then udp.connect answers addr port else (udp, true)) = opened
    at ready ⊢
  obtain ⟨udp', returned⟩ := opened
  simp only [] at ready ⊢
  split
  next pcb held =>
    split
    next => exact ready
    next =>
      have trace := ready.trace
      simp only [phase, held] at trace
      have sent := log_at udp'
        (.sendto pcb.id (data.take maxPayload) addr port answers.sent) _
        (.ready pcb.id) trace (if_pos ⟨rfl, List.length_take_le ..⟩)
      exact ⟨ready.flag, ready.id, by simpa [phase, log, held, At] using sent⟩
  next => exact ready

end AsyncUDP

namespace AsyncUDPMessage

def writeAll (message : AsyncUDPMessage) (writes : List (List UInt8)) : AsyncUDPMessage :=
  writes.foldl (fun message bytes => (message.write bytes).1) message

theorem write_data (message : AsyncUDPMessage) (bytes : List UInt8)
    (allocated : message.buffer = true) (inside : message.data.length ≤ message.size) :
    (message.write bytes).1.buffer = true ∧ (message.write bytes).1.size = message.size ∧
      (message.write bytes).1.data = (message.data ++ bytes).take message.size := by
  simp only [write, space, allocated, Bool.not_true, Bool.false_eq_true, if_false, if_true]
  refine ⟨trivial, trivial, ?_⟩
  have room : (message.data ++ bytes).take message.size =
      message.data ++ bytes.take (message.size - message.data.length) := by
    rw [List.take_append, List.take_of_length_le inside]
  rw [room]
  split
  next => rfl
  next fits =>
    rw [List.take_of_length_le (Nat.le_refl _), List.take_of_length_le (Nat.le_of_not_gt fits)]

theorem take_of_take (count : Nat) (early late : List UInt8) :
    (early.take count ++ late).take count = (early ++ late).take count := by
  have cut : count - min count early.length = count - early.length := by omega
  rw [List.take_append, List.take_append, List.take_take, Nat.min_self, List.length_take, cut]

theorem writeAll_data (message : AsyncUDPMessage) (writes : List (List UInt8))
    (allocated : message.buffer = true) (inside : message.data.length ≤ message.size) :
    (message.writeAll writes).buffer = true ∧
      (message.writeAll writes).data = (message.data ++ writes.flatten).take message.size := by
  induction writes generalizing message with
  | nil => exact ⟨allocated, by simp [writeAll, List.take_of_length_le inside]⟩
  | cons bytes rest ih =>
    obtain ⟨buffer, size, data⟩ := write_data message bytes allocated inside
    have inside' : (message.write bytes).1.data.length ≤ (message.write bytes).1.size := by
      rw [data, size]
      exact List.length_take_le ..
    obtain ⟨allocated', all⟩ := ih (message.write bytes).1 buffer inside'
    refine ⟨allocated', all.trans ?_⟩
    rw [size, data, List.flatten_cons, ← List.append_assoc]
    exact take_of_take message.size _ _

end AsyncUDPMessage

theorem AsyncUDPMessage.writeAll_buffer (message : AsyncUDPMessage) (writes : List (List UInt8)) :
    (message.writeAll writes).buffer = message.buffer := by
  induction writes generalizing message with
  | nil => rfl
  | cons bytes rest ih =>
    have kept : (message.write bytes).1.buffer = message.buffer := by
      unfold AsyncUDPMessage.write
      split <;> rfl
    exact (ih _).trans kept

-- What udp_sendto was given, with whether it reported an error.
def Call.datagram : Call → Option (List UInt8 × UInt32 × UInt16 × Bool)
  | .sendto _ payload addr port ok => some (payload, addr, port, ok)
  | _ => none

namespace AsyncUDP

def datagrams (udp : AsyncUDP) : List (List UInt8 × UInt32 × UInt16 × Bool) :=
  udp.calls.filterMap Call.datagram

def Able (udp : AsyncUDP) (answers : Answers) : Bool :=
  (udp.pcb.isSome || answers.new && answers.connect) && answers.alloc

@[simp] theorem log_datagrams (udp : AsyncUDP) (call : Call) :
    (udp.log call).datagrams = udp.datagrams ++ call.datagram.toList := by
  simp only [log, datagrams, List.filterMap_append, List.filterMap_cons, List.filterMap_nil]
  cases call.datagram <;> rfl

theorem close_datagrams (udp : AsyncUDP) : udp.close.datagrams = udp.datagrams := by
  cases held : udp.pcb with
  | none => simp [close, held]
  | some pcb =>
    have removed := log_datagrams (if udp.connected then udp.log (.disconnect pcb.id) else udp)
      (.remove pcb.id)
    simp only [close, held]
    refine removed.trans ?_
    split <;> simp [Call.datagram]

theorem connect_datagrams (udp : AsyncUDP) (answers : Answers) (addr : UInt32) (port : UInt16)
    (nothing : udp.pcb = none) :
    (udp.connect answers addr port).1.datagrams = udp.datagrams ∧
      (udp.connect answers addr port).2 = (answers.new && answers.connect) ∧
      (udp.connect answers addr port).1.pcb.isSome = (answers.new && answers.connect) := by
  have shut : udp.close = udp := by simp [close, nothing]
  simp only [connect, openWith, shut]
  cases answers.new with
  | false => simp [nothing]
  | true =>
    cases answers.connect with
    | false =>
      refine ⟨(close_datagrams _).trans ?_, rfl, ?_⟩
      · simp [log, datagrams, Call.datagram]
      · simp [close, log]
    | true => simp [log, datagrams, Call.datagram]

theorem writeTo_datagrams (udp : AsyncUDP) (answers : Answers) (data : List UInt8)
    (addr : UInt32) (port : UInt16) :
    (udp.writeTo answers data addr port).1.datagrams = udp.datagrams ++
        (if udp.Able answers then [(data.take maxPayload, addr, port, answers.sent)] else []) ∧
      (udp.writeTo answers data addr port).2 =
        if udp.Able answers && answers.sent then (data.take maxPayload).length else 0 := by
  cases held : udp.pcb with
  | some pcb =>
    simp only [writeTo, held, Able, Option.isNone_some, Option.isSome_some, Bool.true_or,
      Bool.true_and, Bool.false_eq_true, if_false]
    cases answers.alloc <;> simp [log, datagrams, Call.datagram]
  | none =>
    obtain ⟨same, returned, opened⟩ := connect_datagrams udp answers addr port held
    simp only [writeTo, held, Able, Option.isNone_none, Option.isSome_none, Bool.false_or, if_true]
    generalize udp.connect answers addr port = ready at same returned opened ⊢
    obtain ⟨udp', able⟩ := ready
    simp only [] at same returned opened ⊢
    rw [returned]
    cases worked : answers.new && answers.connect with
    | false => simp [same]
    | true =>
      rw [worked] at opened
      obtain ⟨pcb, there⟩ := Option.isSome_iff_exists.1 opened
      rw [← same]
      simp only [there]
      cases answers.alloc <;> simp [log, datagrams, Call.datagram]

/-- Whatever was written into a message, `sendTo` sends one datagram with all of it up to the size
of the message, or none if lwIP has no control block or no buffer for it. The length of that
datagram is what `sendTo` reports, unless udp_sendto fails. -/
theorem sendTo_whole_message (udp : AsyncUDP) (answers : Answers) (allocated : Bool) (size : Nat)
    (writes : List (List UInt8)) (addr : UInt32) (port : UInt16) :
    let message := (AsyncUDPMessage.new allocated size).writeAll writes
    let sent := udp.sendTo answers message addr port
    let text := writes.flatten.take (min size maxPayload)
    let goes := allocated && udp.Able answers
    sent.1.datagrams = udp.datagrams ++ (if goes then [(text, addr, port, answers.sent)] else []) ∧
      sent.2 = if goes && answers.sent then text.length else 0 := by
  intro message sent text goes
  cases allocated with
  | false =>
    have absent : message.buffer = false := AsyncUDPMessage.writeAll_buffer _ writes
    have same : sent = (udp, 0) := by simp [sent, sendTo, absent]
    simp [same, goes]
  | true =>
    obtain ⟨there, data⟩ := AsyncUDPMessage.writeAll_data (AsyncUDPMessage.new true size) writes
      rfl (Nat.zero_le _)
    have limit : (AsyncUDPMessage.new true size).size = min size maxPayload := by
      simp only [AsyncUDPMessage.new]
      split <;> omega
    have whole : message.data = text := by
      rw [limit] at data
      exact data
    have fits : text.take maxPayload = text := by
      simp only [text, List.take_take]
      congr 1
      omega
    have same : sent = udp.writeTo answers text addr port := by
      simp only [sent, sendTo, message, there, Bool.not_true, Bool.false_eq_true, if_false]
      rw [← whole]
    have wrote := writeTo_datagrams udp answers text addr port
    rw [fits] at wrote
    simpa only [same, goes, Bool.true_and] using wrote

end AsyncUDP

end EspDrone.AsyncUdp

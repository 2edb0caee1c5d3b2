import EspDrone.Shared.Runs
import EspDrone.UdpXmitter.Bytes

set_option autoImplicit false

namespace EspDrone.UdpXmitter

def bufferSize : Nat := 4096

-- A packet whose event has been posted, with the mode its text was made in; `fill` tells which
-- datagram of the buffer it was, and `data` are its bytes at that time.
structure Post where
  text : List Char
  binary : Bool
  remoteIp : String
  remotePort : Nat
  fill : Nat
  data : List UInt8
  deriving DecidableEq, Repr

-- A Dispatcher that runs: `bytes` is what the ByteArray block has been given so far, if there is
-- one, each byte with the number of datagrams that had come in when it was read.
structure Record where
  post : Post
  bytes : Option (List (UInt8 × Nat))
  deriving DecidableEq, Repr

-- One listener thread and the user interface. `fills` are the datagrams so far, each cut to the
-- buffer; `filled` is the packet the thread is working on, and `handed` are those it has posted.
structure Receiver where
  buf : List UInt8
  fills : List (List UInt8)
  filled : Option (String × Nat × List UInt8)
  binaryMode : Bool
  dropOwnBroadcast : Bool
  receivingByteArray : Bool
  handed : List Post
  posts : List Post
  running : Option Record
  records : List Record
  deriving DecidableEq, Repr

-- `copy` is one turn of the loop of Dispatcher.run and `raise` its call of dispatchEvent.
inductive ReceiveEvent where
  | receive (data : List UInt8) (remoteIp : String) (remotePort : Nat)
  | hand (own : Bool)
  | dispatch
  | copy
  | raise
  | setBinaryMode (value : Bool)
  | setDropOwnBroadcast (value : Bool)
  | setReceivingByteArray (value : Bool)
  deriving DecidableEq, Repr

namespace Receiver

def initial : Receiver :=
  { buf := List.replicate bufferSize 0, fills := [], filled := none, binaryMode := false
    dropOwnBroadcast := true, receivingByteArray := false, handed := [], posts := []
    running := none, records := [] }

-- What a datagram leaves of the bytes that lie in its place.
def overwrite (bytes data : List UInt8) : List UInt8 :=
  data.take bytes.length ++ bytes.drop data.length

def onIdle (receiver : Receiver) (change : Receiver → Receiver) : Option Receiver :=
  if receiver.running.isNone then some (change receiver) else none

-- `decode` is new String(bytes) with the default charset. Nothing is received before the packet
-- at hand is posted or dropped.
def step (decode : List UInt8 → List Char) (receiver : Receiver) :
    ReceiveEvent → Option Receiver
  | .receive data remoteIp remotePort =>
      match receiver.filled with
      | some _ => none
      | none =>
          some { receiver with
            buf := overwrite receiver.buf data
            fills := receiver.fills ++ [data.take bufferSize]
            filled := some (remoteIp, remotePort, data.take bufferSize) }
  | .hand own =>
      match receiver.filled with
      | none => none
      | some (remoteIp, remotePort, data) =>
          if receiver.dropOwnBroadcast && own then some { receiver with filled := none }
          else
            let post : Post :=
              { text :=
                  if receiver.binaryMode then binaryText receiver.buf
                  else decode (receiver.buf.take data.length)
                binary := receiver.binaryMode
                remoteIp := remoteIp
                remotePort := remotePort
                fill := receiver.fills.length
                data := data }
            some { receiver with
              filled := none
              handed := receiver.handed ++ [post]
              posts := receiver.posts ++ [post] }
  | .dispatch =>
      match receiver.running, receiver.posts with
      | none, post :: rest =>
          some { receiver with
            posts := rest
            running := some ⟨post, if receiver.receivingByteArray then some [] else none⟩ }
      | _, _ => none
  | .copy =>
      match receiver.running with
      | some ⟨post, some copied⟩ =>
          (receiver.buf[copied.length]?).bind fun byte =>
            if copied.length < post.data.length then
              some { receiver with
                running := some ⟨post, some (copied ++ [(byte, receiver.fills.length)])⟩ }
            else none
      | _ => none
  | .raise =>
      receiver.running.bind fun record =>
        if record.bytes.all fun copied => copied.length == record.post.data.length then
          some { receiver with running := none, records := receiver.records ++ [record] }
        else none
  | .setBinaryMode value => receiver.onIdle fun idle => { idle with binaryMode := value }
  | .setDropOwnBroadcast value =>
      receiver.onIdle fun idle => { idle with dropOwnBroadcast := value }
  | .setReceivingByteArray value =>
      receiver.onIdle fun idle => { idle with receivingByteArray := value }

theorem overwrite_length (bytes data : List UInt8) :
    (overwrite bytes data).length = bytes.length := by
  simp only [overwrite, List.length_append, List.length_take, List.length_drop]
  omega

theorem overwrite_take (bytes data : List UInt8) (count : Nat) (inside : count ≤ bytes.length) :
    (overwrite bytes data).take count = overwrite (bytes.take count) data := by
  have length : (bytes.take count).length = count := List.length_take_of_le inside
  have rest : count - (data.take bytes.length).length = count - data.length := by
    rw [List.length_take]
    omega
  rw [overwrite, overwrite, length, List.take_append, List.take_take, Nat.min_eq_left inside,
    rest, List.drop_take]

theorem overwrite_cut (bytes data : List UInt8) (limit : Nat) (inside : bytes.length ≤ limit) :
    overwrite bytes (data.take limit) = overwrite bytes data := by
  have rest : bytes.drop (data.take limit).length = bytes.drop data.length := by
    rw [List.length_take]
    by_cases fits : data.length ≤ limit
    · rw [Nat.min_eq_right fits]
    · rw [List.drop_of_length_le (by omega), List.drop_of_length_le (by omega)]
  rw [overwrite, overwrite, rest, List.take_take, Nat.min_eq_left inside]

theorem overwrite_own (bytes data : List UInt8) (limit : Nat) (size : bytes.length = limit) :
    (overwrite bytes data).take (data.take limit).length = data.take limit := by
  have length : (data.take bytes.length).length = (data.take limit).length := by rw [size]
  rw [overwrite, ← length, List.take_left, size]

-- The bytes of a packet after the datagrams that came in between it and the `seen`-th one.
def later (fills : List (List UInt8)) (post : Post) (seen : Nat) : List UInt8 :=
  ((fills.take seen).drop post.fill).foldl overwrite post.data

-- Each byte was read out of the packet as it was then, from the front on.
structure Copied (fills : List (List UInt8)) (post : Post) (copied : List (UInt8 × Nat)) :
    Prop where
  bytes : ∀ (place : Nat) (byte : UInt8) (seen : Nat), copied[place]? = some (byte, seen) →
    (later fills post seen)[place]? = some byte ∧ post.fill ≤ seen ∧ seen ≤ fills.length
  order : (copied.map Prod.snd).Pairwise (· ≤ ·)

-- A packet whose bytes are still in the buffer, under those of the datagrams after it.
structure Buried (receiver : Receiver) (post : Post) : Prop where
  inside : post.data.length ≤ bufferSize
  earlier : post.fill ≤ receiver.fills.length
  bytes : receiver.buf.take post.data.length =
    (receiver.fills.drop post.fill).foldl overwrite post.data

def pending (receiver : Receiver) : List Post :=
  (receiver.running.map Record.post).toList ++ receiver.posts

structure Kept (decode : List UInt8 → List Char) (receiver : Receiver) : Prop where
  size : receiver.buf.length = bufferSize
  filled : ∀ ip port data, receiver.filled = some (ip, port, data) →
    receiver.buf.take data.length = data ∧ data.length ≤ bufferSize
  posts : ∀ post ∈ receiver.pending, receiver.Buried post
  running : ∀ record, receiver.running = some record → ∀ copied, record.bytes = some copied →
    Copied receiver.fills record.post copied
  records : ∀ record ∈ receiver.records, ∀ copied, record.bytes = some copied →
    copied.length = record.post.data.length ∧ Copied receiver.fills record.post copied
  texts : ∀ post ∈ receiver.handed, post.data.length ≤ bufferSize ∧
    if post.binary then
      ∃ shown, post.text = binaryText shown ∧ shown.length = bufferSize ∧
        shown.take post.data.length = post.data
    else post.text = decode post.data
  order : receiver.records.map Record.post ++ receiver.pending = receiver.handed

theorem initial_kept (decode : List UInt8 → List Char) : Kept decode initial where
  size := by simp [initial]
  filled := by simp [initial]
  posts := by simp [initial, pending]
  running := by simp [initial]
  records := by simp [initial]
  texts := by simp [initial]
  order := rfl

theorem Copied.receive {fills : List (List UInt8)} {post : Post} {copied : List (UInt8 × Nat)}
    (kept : Copied fills post copied) (data : List UInt8) :
    Copied (fills ++ [data]) post copied where
  bytes place byte seen read := by
    obtain ⟨same, early, late⟩ := kept.bytes place byte seen read
    refine ⟨?_, early, ?_⟩
    · rw [later, List.take_append_of_le_length late]
      exact same
    · simp only [List.length_append]
      omega
  order := kept.order

theorem Buried.same {receiver next : Receiver} {post : Post} (buried : receiver.Buried post)
    (buf : next.buf = receiver.buf) (fills : next.fills = receiver.fills) :
    next.Buried post := by
  refine ⟨buried.inside, ?_, ?_⟩
  · rw [fills]
    exact buried.earlier
  · rw [buf, fills]
    exact buried.bytes

theorem Buried.receive {receiver : Receiver} {post : Post} (buried : receiver.Buried post)
    (size : receiver.buf.length = bufferSize) (data : List UInt8)
    (filled : Option (String × Nat × List UInt8)) :
    Buried { receiver with
      buf := overwrite receiver.buf data
      fills := receiver.fills ++ [data.take bufferSize]
      filled := filled } post where
  inside := buried.inside
  earlier := by
    have earlier := buried.earlier
    simp only [List.length_append]
    omega
  bytes := by
    have inside := buried.inside
    rw [List.drop_append_of_le_length buried.earlier, List.foldl_append, ← buried.bytes,
      overwrite_take _ _ _ (by rw [size]; exact inside)]
    exact (overwrite_cut _ _ _ (Nat.le_trans (List.length_take_le ..) inside)).symm

theorem Copied.next {receiver : Receiver} {post : Post} {copied : List (UInt8 × Nat)}
    (kept : Copied receiver.fills post copied) (buried : receiver.Buried post) (byte : UInt8)
    (read : receiver.buf[copied.length]? = some byte) (more : copied.length < post.data.length) :
    Copied receiver.fills post (copied ++ [(byte, receiver.fills.length)]) where
  bytes place other seen there := by
    rw [List.getElem?_append] at there
    split at there
    next => exact kept.bytes place other seen there
    next beyond =>
      obtain ⟨rfl, -⟩ : place = copied.length ∧ True := by
        refine ⟨?_, trivial⟩
        have inside := (List.getElem?_eq_some_iff.1 there).1
        simp only [List.length_singleton] at inside
        omega
      simp only [Nat.sub_self, List.getElem?_cons_zero, Option.some.injEq, Prod.mk.injEq] at there
      obtain ⟨rfl, rfl⟩ := there
      refine ⟨?_, buried.earlier, Nat.le_refl _⟩
      rw [later, List.take_length, ← buried.bytes, List.getElem?_take_of_lt more]
      exact read
  order := by
    rw [List.map_append, List.pairwise_append]
    refine ⟨kept.order, by simp, fun early member last only => ?_⟩
    obtain ⟨⟨byte', seen⟩, inside, rfl⟩ := List.mem_map.1 member
    obtain ⟨place, there⟩ := List.mem_iff_getElem?.1 inside
    have bound := (kept.bytes place byte' seen there).2.2
    simp only [List.map_cons, List.map_nil, List.mem_singleton] at only
    rw [only]
    exact bound

theorem step_kept (decode : List UInt8 → List Char) (receiver next : Receiver)
    (event : ReceiveEvent) (kept : Kept decode receiver)
    (taken : receiver.step decode event = some next) : Kept decode next := by
  cases event with
  | receive data remoteIp remotePort =>
    simp only [step] at taken
    split at taken
    next => simp at taken
    next =>
      obtain rfl := Option.some.inj taken
      exact
        { size := (overwrite_length ..).trans kept.size
          filled := by
            intro ip port bytes same
            obtain ⟨-, -, rfl⟩ : remoteIp = ip ∧ remotePort = port ∧
                data.take bufferSize = bytes := by simpa using same
            exact ⟨overwrite_own _ _ _ kept.size, List.length_take_le ..⟩
          posts := fun post member => (kept.posts post member).receive kept.size data _
          running := fun record there copied bytes =>
            (kept.running record there copied bytes).receive _
          records := fun record member copied bytes =>
            ⟨(kept.records record member copied bytes).1,
              (kept.records record member copied bytes).2.receive _⟩
          texts := kept.texts
          order := kept.order }
  | hand own =>
    simp only [step] at taken
    split at taken
    next => simp at taken
    next ip port data held =>
      obtain ⟨own', inside⟩ := kept.filled ip port data held
      split at taken
      next =>
        obtain rfl := Option.some.inj taken
        exact ⟨kept.size, by simp, fun post member => (kept.posts post member).same rfl rfl,
          kept.running, kept.records, kept.texts, kept.order⟩
      next =>
        obtain rfl := Option.some.inj taken
        refine ⟨kept.size, by simp, ?_, kept.running, kept.records, ?_, ?_⟩
        · intro post member
          simp only [pending, ← List.append_assoc] at member
          rcases List.mem_append.1 member with old | new
          · exact (kept.posts post old).same rfl rfl
          · rw [List.mem_singleton.1 new]
            exact ⟨inside, Nat.le_refl _, by simpa using own'⟩
        · intro post member
          rcases List.mem_append.1 member with old | new
          · exact kept.texts post old
          · rw [List.mem_singleton.1 new]
            refine ⟨inside, ?_⟩
            by_cases binary : receiver.binaryMode = true
            · simp only [binary, if_true]
              exact ⟨receiver.buf, rfl, kept.size, own'⟩
            · simp only [binary, if_false, own', Bool.false_eq_true]
        · have order := kept.order
          simp only [pending, ← List.append_assoc] at order ⊢
          rw [order]
  | dispatch =>
    simp only [step] at taken
    split at taken
    next post rest idle held =>
      obtain rfl := Option.some.inj taken
      have same : receiver.pending = post :: rest := by simp [pending, idle, held]
      refine ⟨kept.size, kept.filled, fun other member => ?_, ?_, kept.records, kept.texts, ?_⟩
      · exact (kept.posts other (by rw [same]; exact member)).same rfl rfl
      · intro record there copied bytes
        obtain rfl := Option.some.inj there
        simp only [Option.ite_none_right_eq_some, Option.some.injEq] at bytes
        obtain ⟨-, rfl⟩ := bytes
        exact ⟨by simp, by simp⟩
      · rw [← kept.order, same]
        rfl
    next => simp at taken
  | copy =>
    simp only [step] at taken
    split at taken
    next post copied held =>
      obtain ⟨byte, read, goes⟩ := Option.bind_eq_some_iff.1 taken
      simp only [Option.ite_none_right_eq_some, Option.some.injEq] at goes
      obtain ⟨more, rfl⟩ := goes
      have same : receiver.pending = post :: receiver.posts := by simp [pending, held]
      have buried := kept.posts post (by rw [same]; exact List.mem_cons_self ..)
      refine ⟨kept.size, kept.filled, fun other member => ?_, ?_, kept.records, kept.texts, ?_⟩
      · exact (kept.posts other (by rw [same]; exact member)).same rfl rfl
      · intro record there others bytes
        obtain rfl := Option.some.inj there
        obtain rfl := Option.some.inj bytes
        exact (kept.running _ held copied rfl).next buried byte read more
      · rw [← kept.order, same]
        rfl
    next => simp at taken
  | raise =>
    obtain ⟨record, held, goes⟩ := Option.bind_eq_some_iff.1 taken
    simp only [Option.ite_none_right_eq_some, Option.some.injEq] at goes
    obtain ⟨whole, rfl⟩ := goes
    have same : receiver.pending = record.post :: receiver.posts := by simp [pending, held]
    refine ⟨kept.size, kept.filled, fun other member => ?_, by simp, ?_, kept.texts, ?_⟩
    · have before := kept.posts other (by rw [same]; exact List.mem_cons_of_mem _ member)
      exact before.same rfl rfl
    · intro other member copied bytes
      rcases List.mem_append.1 member with old | new
      · exact kept.records other old copied bytes
      · obtain rfl := List.mem_singleton.1 new
        rw [bytes] at whole
        exact ⟨by simpa using whole, kept.running _ held copied bytes⟩
    · rw [← kept.order, same]
      simp [pending]
  | setBinaryMode value | setDropOwnBroadcast value | setReceivingByteArray value =>
    simp only [step, onIdle, Option.ite_none_right_eq_some, Option.some.injEq] at taken
    obtain ⟨-, rfl⟩ := taken
    exact ⟨kept.size, kept.filled, fun post member => (kept.posts post member).same rfl rfl,
      kept.running, kept.records, kept.texts, kept.order⟩

theorem run_kept (decode : List UInt8 → List Char) (events : List ReceiveEvent)
    (final : Receiver) (reached : Runs.run (step decode) initial events = some final) :
    Kept decode final :=
  Runs.run_invariant (step decode) (Kept decode)
    (fun state event next holds taken => step_kept decode state next event holds taken)
    events initial final (initial_kept decode) reached

/-- Every packet handed over is dispatched once and in order, whatever comes in between. But the
ByteArray block gets its bytes one after the other, and each one as the datagrams that have come in
by then have left it: the bytes of one event may be those of several datagrams. -/
theorem bytes_overwritten (decode : List UInt8 → List Char) (events : List ReceiveEvent)
    (final : Receiver) (reached : Runs.run (step decode) initial events = some final) :
    final.records.map Record.post ++ final.pending = final.handed ∧
      ∀ record ∈ final.records, ∀ copied, record.bytes = some copied →
        copied.length = record.post.data.length ∧
          (copied.map Prod.snd).Pairwise (· ≤ ·) ∧
          ∀ (place : Nat) (byte : UInt8) (seen : Nat), copied[place]? = some (byte, seen) →
            (later final.fills record.post seen)[place]? = some byte := by
  have kept := run_kept decode events final reached
  refine ⟨kept.order, fun record member copied bytes => ?_⟩
  obtain ⟨whole, copy⟩ := kept.records record member copied bytes
  exact ⟨whole, copy.order, fun place byte seen there => (copy.bytes place byte seen there).1⟩

-- A datagram comes in after the first byte has been read: 65, 89, 90 is none of the two.
theorem bytes_overwritten_torn :
    let decode : List UInt8 → List Char := List.map fun byte => Char.ofNat byte.toNat
    let events : List ReceiveEvent :=
      [.setReceivingByteArray true, .receive [65, 66, 67] "10.0.0.2" 4210, .hand false, .dispatch,
        .copy, .receive [88, 89, 90] "10.0.0.2" 4210, .copy, .copy, .raise]
    ∃ final, Runs.run (step decode) initial events = some final ∧
      final.records.map (fun record => record.bytes.map (List.map Prod.fst)) =
        [some [65, 89, 90]] ∧
      final.records.map Record.post ++ final.pending = final.handed ∧
      ∀ record ∈ final.records, ∀ copied, record.bytes = some copied →
        copied.length = record.post.data.length ∧
          (copied.map Prod.snd).Pairwise (· ≤ ·) ∧
          ∀ (place : Nat) (byte : UInt8) (seen : Nat), copied[place]? = some (byte, seen) →
            (later final.fills record.post seen)[place]? = some byte := by
  intro decode events
  have torn : (Runs.run (step decode) initial events).map (fun final =>
      final.records.map fun record => record.bytes.map (List.map Prod.fst)) =
        some [some [65, 89, 90]] := by decide +kernel
  obtain ⟨final, reached, bytes⟩ := Option.map_eq_some_iff.1 torn
  exact ⟨final, reached, bytes, bytes_overwritten decode events final reached⟩

/-- The text of a packet is its own outside binary mode. In binary mode it always reads back as a
whole buffer, which starts with the packet. -/
theorem text_reads_back (decode : List UInt8 → List Char) (digit : Char → Nat → Option Nat)
    (ascii : AsciiDigits digit) (events : List ReceiveEvent) (final : Receiver)
    (reached : Runs.run (step decode) initial events = some final) :
    ∀ post ∈ final.handed,
      (post.binary = false → post.text = decode post.data) ∧
        (post.binary = true → ∃ sent, stringToBytes digit post.text = some sent ∧
          sent.length = bufferSize ∧ sent.take post.data.length = post.data) := by
  intro post member
  have text := ((run_kept decode events final reached).texts post member).2
  constructor
  next =>
    intro plain
    simpa [plain] using text
  next =>
    intro binary
    rw [if_pos binary] at text
    obtain ⟨shown, same, size, own⟩ := text
    refine ⟨shown, ?_, size, own⟩
    rw [same]
    refine stringToBytes_binaryText ascii shown fun nothing => ?_
    rw [nothing] at size
    simp [bufferSize] at size

theorem text_reads_back_binary :
    let decode : List UInt8 → List Char := List.map fun byte => Char.ofNat byte.toNat
    let events : List ReceiveEvent :=
      [.setBinaryMode true, .receive [65, 66, 67] "10.0.0.2" 4210, .hand false]
    ∃ final, Runs.run (step decode) initial events = some final ∧
      ∀ post ∈ final.handed,
        (post.binary = false → post.text = decode post.data) ∧
          (post.binary = true → ∃ sent, stringToBytes asciiDigit post.text = some sent ∧
            sent.length = bufferSize ∧ sent.take post.data.length = post.data) := by
  intro decode events
  have reached : Runs.run (step decode) initial events = some _ := rfl
  exact ⟨_, reached, text_reads_back decode asciiDigit asciiDigit_ascii events _ reached⟩

end Receiver

end EspDrone.UdpXmitter

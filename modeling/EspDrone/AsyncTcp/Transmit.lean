import EspDrone.Shared.BoundedQueue
import EspDrone.Shared.Runs
import Mathlib.Algebra.Order.BigOperators.Group.Finset

set_option autoImplicit false

namespace EspDrone.AsyncTcp

-- What the buffer asks of the AsyncClient below it, and what the network does to that client.
structure Link (L E : Type) where
  connected : L → Bool
  space : L → Nat
  canSend : L → Bool
  write : L → List UInt8 → L × Nat
  network : E → L → L
  write_le : ∀ client bytes, (write client bytes).2 ≤ bytes.length

-- A client that has space and may send takes something of what it is given.
def Link.Takes {L E : Type} (link : Link L E) : Prop :=
  ∀ client bytes, link.connected client = true → 0 < link.space client →
    link.canSend client = true → bytes ≠ [] → 0 < (link.write client bytes).2

-- A client that is always ready and takes everything it has space for.
def Link.ready (space : Nat) : Link Unit Unit where
  connected _ := true
  space _ := space
  canSend _ := true
  write client bytes := (client, min space bytes.length)
  network _ client := client
  write_le _ _ := Nat.min_le_right _ _

def tcpMss : Nat := 1460

-- The heap in one turn of the loop of write: whether each copy of _sendBuffer can be made, and
-- the reading of the free heap after it.
structure Heap where
  allocations : List Bool
  low : Bool
  deriving DecidableEq, Repr

-- `older` are the buffers from _TXbufferRead up to the one before _TXbufferWrite, and
-- `sent` is what the client has taken so far.
structure TxBuffer (C L : Type) where
  client : Option L
  older : List C
  last : C
  sent : List UInt8

namespace TxBuffer

variable {C L E : Type} (api : BoundedQueue UInt8 C) (link : Link L E)

def initial (client : L) : TxBuffer C L :=
  { client := some client, older := [], last := api.new tcpMss, sent := [] }

def first (tx : TxBuffer C L) : C := tx.older.head?.getD tx.last

def connected (tx : TxBuffer C L) : Bool := tx.client.any link.connected

def canSend (tx : TxBuffer C L) : Bool := tx.client.any link.canSend

def pending (tx : TxBuffer C L) : List UInt8 :=
  (tx.older.map api.contents).flatten ++ api.contents tx.last

def sending (tx : TxBuffer C L) : Bool :=
  tx.connected link && tx.client.any (fun client => decide (0 < link.space client)) &&
    decide (0 < api.available tx.first) && tx.canSend link

def advance (tx : TxBuffer C L) (left : C) : TxBuffer C L :=
  match tx.older with
  | [] => { tx with last := left }
  | _ :: rest => { tx with older := if api.empty left then rest else left :: rest }

def sendRound (tx : TxBuffer C L) : TxBuffer C L :=
  match tx.client with
  | none => tx
  | some client =>
      let available := min (api.available tx.first) (link.space client)
      let out := api.peek tx.first available
      let answer := link.write client out
      { tx.advance api (api.remove tx.first answer.2) with
        client := some answer.1
        sent := tx.sent ++ out.take answer.2 }

-- The loop of _sendBuffer; `none` while it still runs.
def sendLoop : List Bool → TxBuffer C L → Option (TxBuffer C L)
  | allocations, tx =>
      if tx.sending api link then
        match allocations with
        | [] => none
        | false :: _ => some tx
        | true :: later => sendLoop later (tx.sendRound api link)
      else some tx

def sendBuffer (allocations : List Bool) (tx : TxBuffer C L) : Option (TxBuffer C L) :=
  if api.available tx.first == 0 || tx.client.isNone || !(tx.connected link) ||
      !(tx.canSend link) then some tx
  else sendLoop api link allocations tx

def store (tx : TxBuffer C L) (data : List UInt8) : TxBuffer C L :=
  { tx with last := api.write tx.last data }

def extend (tx : TxBuffer C L) : TxBuffer C L :=
  { tx with older := tx.older ++ [tx.last], last := api.new tcpMss }

-- The loop of write, and the bytes it did not take; `none` while it still runs.
def writeLoop : List Heap → TxBuffer C L → List UInt8 → Option (TxBuffer C L × List UInt8)
  | _, tx, [] => some (tx, [])
  | [], _, _ :: _ => none
  | heap :: heaps, tx, byte :: bytes =>
      let data := byte :: bytes
      let bytesLeft := data.drop (api.accepted tx.last data)
      (sendBuffer api link heap.allocations (tx.store api data)).bind fun pushed =>
        if api.full pushed.last && !bytesLeft.isEmpty then
          if heap.low then some (pushed, bytesLeft)
          else writeLoop heaps (pushed.extend api) bytesLeft
        else writeLoop heaps pushed bytesLeft

def write (heaps : List Heap) (tx : TxBuffer C L) (data : List UInt8) :
    Option (TxBuffer C L × Nat) :=
  if !(tx.connected link) || data.isEmpty then some (tx, 0)
  else (writeLoop api link heaps tx data).map fun result =>
    (result.1, data.length - result.2.length)

end TxBuffer

namespace TxBuffer

variable {C L E : Type} {api : BoundedQueue UInt8 C} {link : Link L E}

-- Buffers before the last one hold something, and the last one has cells.
structure Chained (api : BoundedQueue UInt8 C) (tx : TxBuffer C L) : Prop where
  older : ∀ queue ∈ tx.older, api.contents queue ≠ []
  cells : 0 < api.capacity tx.last

-- Between two calls an empty last buffer is the only one.
structure Settled (api : BoundedQueue UInt8 C) (tx : TxBuffer C L) : Prop
    extends Chained api tx where
  alone : api.contents tx.last = [] → tx.older = []

theorem initial_settled (client : L) : Settled api (initial api client) where
  older := by simp [initial]
  cells := by simp [initial, tcpMss]
  alone _ := rfl

theorem advance_pending (api : BoundedQueue UInt8 C) (tx : TxBuffer C L) (count : Nat)
    (fits : count ≤ api.available tx.first) :
    (tx.advance api (api.remove tx.first count)).pending api = (tx.pending api).drop count := by
  cases chain : tx.older with
  | nil => simp [advance, pending, first, chain]
  | cons queue rest =>
    have inside : count ≤ (api.contents queue).length := by
      simpa [first, chain, BoundedQueue.available] using fits
    by_cases drained : (api.contents queue).drop count = [] <;>
      simp [advance, pending, first, chain, BoundedQueue.empty, drained,
        List.drop_append_of_le_length inside]

theorem pending_first (api : BoundedQueue UInt8 C) (tx : TxBuffer C L) :
    ∃ rest, tx.pending api = api.contents tx.first ++ rest := by
  cases chain : tx.older with
  | nil => exact ⟨[], by simp [pending, first, chain]⟩
  | cons queue rest =>
    exact ⟨(rest.map api.contents).flatten ++ api.contents tx.last, by
      simp [pending, first, chain]⟩

theorem sendRound_conserves (tx : TxBuffer C L) :
    (tx.sendRound api link).sent ++ (tx.sendRound api link).pending api =
      tx.sent ++ tx.pending api := by
  cases client : tx.client with
  | none => simp [sendRound, client]
  | some client' =>
    simp only [sendRound, client]
    generalize length : min (api.available tx.first) (link.space client') = available
    have bound := link.write_le client' (api.peek tx.first available)
    generalize (link.write client' (api.peek tx.first available)).2 = count at bound ⊢
    have inside : count ≤ api.available tx.first := by
      simp only [BoundedQueue.peek, List.length_take] at bound
      unfold BoundedQueue.available
      omega
    have within : count ≤ available := by
      simp only [BoundedQueue.peek, List.length_take] at bound
      omega
    obtain ⟨rest, front⟩ := pending_first api tx
    have removed := advance_pending api tx count inside
    have taken : (api.peek tx.first available).take count = (tx.pending api).take count := by
      rw [front, List.take_append_of_le_length inside, BoundedQueue.peek, List.take_take,
        Nat.min_eq_left within]
    change tx.sent ++ _ ++ (tx.advance api (api.remove tx.first count)).pending api = _
    rw [removed, taken, List.append_assoc, List.take_append_drop]

theorem mem_advance_older (tx : TxBuffer C L) (left queue : C)
    (member : queue ∈ (tx.advance api left).older) :
    queue ∈ tx.older ∨ api.contents queue ≠ [] := by
  cases chain : tx.older with
  | nil => simp [advance, chain] at member
  | cons head rest =>
    by_cases drained : api.empty left = true
    · have kept : queue ∈ rest := by simpa [advance, chain, drained] using member
      exact Or.inl (List.mem_cons_of_mem _ kept)
    · have kept : queue = left ∨ queue ∈ rest := by simpa [advance, chain, drained] using member
      rcases kept with rfl | kept
      · exact Or.inr fun nothing => drained ((api.empty_iff _).2 nothing)
      · exact Or.inl (List.mem_cons_of_mem _ kept)

theorem advance_settled (tx : TxBuffer C L) (count : Nat) (settled : Settled api tx) :
    Settled api (tx.advance api (api.remove tx.first count)) where
  older queue member := by
    rcases mem_advance_older tx _ queue member with kept | holds
    · exact settled.older queue kept
    · exact holds
  cells := by
    cases chain : tx.older with
    | nil => simpa [advance, chain, first] using settled.cells
    | cons queue rest => simpa [advance, chain] using settled.cells
  alone nothing := by
    cases chain : tx.older with
    | nil => simp [advance, chain]
    | cons queue rest =>
      have drained : api.contents tx.last = [] := by simpa [advance, chain] using nothing
      simp [settled.alone drained] at chain

theorem sendRound_settled (tx : TxBuffer C L) (settled : Settled api tx) :
    Settled api (tx.sendRound api link) := by
  cases client : tx.client with
  | none => simpa [sendRound, client] using settled
  | some client' =>
    simp only [sendRound, client]
    have kept := advance_settled tx
      (link.write client' (api.peek tx.first
        (min (api.available tx.first) (link.space client')))).2 settled
    exact ⟨⟨kept.older, kept.cells⟩, kept.alone⟩

theorem sendBuffer_keeps (kept : TxBuffer C L → Prop)
    (round : ∀ tx, kept tx → kept (tx.sendRound api link)) (allocations : List Bool)
    (tx pushed : TxBuffer C L) (start : kept tx)
    (returned : sendBuffer api link allocations tx = some pushed) : kept pushed := by
  have loop : ∀ allocations tx, kept tx → sendLoop api link allocations tx = some pushed →
      kept pushed := by
    intro allocations
    induction allocations with
    | nil =>
      intro tx holds looped
      unfold sendLoop at looped
      split at looped
      · simp at looped
      · exact Option.some.inj looped ▸ holds
    | cons heap later ih =>
      intro tx holds looped
      unfold sendLoop at looped
      cases heap with
      | false => split at looped <;> exact Option.some.inj looped ▸ holds
      | true =>
        split at looped
        · exact ih _ (round tx holds) looped
        · exact Option.some.inj looped ▸ holds
  unfold sendBuffer at returned
  split at returned
  · exact Option.some.inj returned ▸ start
  · exact loop allocations tx start returned

theorem writeLoop_keeps (kept : TxBuffer C L → Prop)
    (round : ∀ tx, kept tx → kept (tx.sendRound api link))
    (buffers : ∀ tx older last, kept tx → kept { tx with older := older, last := last })
    (heaps : List Heap) (tx final : TxBuffer C L) (data left : List UInt8) (start : kept tx)
    (returned : writeLoop api link heaps tx data = some (final, left)) : kept final := by
  induction heaps generalizing tx data with
  | nil =>
    cases data with
    | nil =>
      obtain ⟨rfl, -⟩ : tx = final ∧ [] = left := by simpa [writeLoop] using returned
      exact start
    | cons byte bytes => simp [writeLoop] at returned
  | cons heap heaps ih =>
    cases data with
    | nil =>
      obtain ⟨rfl, -⟩ : tx = final ∧ [] = left := by simpa [writeLoop] using returned
      exact start
    | cons byte bytes =>
      obtain ⟨pushed, sent, rest⟩ := Option.bind_eq_some_iff.1 returned
      have after := sendBuffer_keeps kept round heap.allocations
        (tx.store api (byte :: bytes)) pushed (buffers tx tx.older _ start) sent
      split at rest
      · split at rest
        · obtain ⟨rfl, -⟩ := Prod.mk.inj (Option.some.inj rest)
          exact after
        · exact ih _ _ (buffers _ _ _ after) rest
      · exact ih _ _ after rest

theorem write_keeps (kept : TxBuffer C L → Prop)
    (round : ∀ tx, kept tx → kept (tx.sendRound api link))
    (buffers : ∀ tx older last, kept tx → kept { tx with older := older, last := last })
    (heaps : List Heap) (tx final : TxBuffer C L) (data : List UInt8) (count : Nat)
    (start : kept tx) (returned : write api link heaps tx data = some (final, count)) :
    kept final := by
  unfold write at returned
  split at returned
  · obtain ⟨rfl, -⟩ := Prod.mk.inj (Option.some.inj returned)
    exact start
  · obtain ⟨⟨other, left⟩, looped, same⟩ := Option.map_eq_some_iff.1 returned
    obtain ⟨rfl, -⟩ := Prod.mk.inj same
    exact writeLoop_keeps kept round buffers heaps tx other data left start looped

theorem sendBuffer_conserves (allocations : List Bool) (tx pushed : TxBuffer C L)
    (returned : sendBuffer api link allocations tx = some pushed) :
    pushed.sent ++ pushed.pending api = tx.sent ++ tx.pending api :=
  sendBuffer_keeps (fun other => other.sent ++ other.pending api = tx.sent ++ tx.pending api)
    (fun other holds => (sendRound_conserves other).trans holds) allocations tx pushed rfl returned

theorem sendBuffer_settled (allocations : List Bool) (tx pushed : TxBuffer C L)
    (settled : Settled api tx) (returned : sendBuffer api link allocations tx = some pushed) :
    Settled api pushed :=
  sendBuffer_keeps (Settled api) sendRound_settled allocations tx pushed settled returned

theorem store_pending (tx : TxBuffer C L) (data : List UInt8) :
    (tx.store api data).pending api =
      tx.pending api ++ data.take (api.accepted tx.last data) := by
  simp only [store, pending, api.contents_write_accepted, List.append_assoc]

theorem store_settled (tx : TxBuffer C L) (data : List UInt8) (more : data ≠ [])
    (chained : Chained api tx) : Settled api (tx.store api data) where
  older := chained.older
  cells := by simpa [store] using chained.cells
  alone nothing := by
    exfalso
    by_cases filled : api.full tx.last = true
    · have held := api.contents_ne_nil_of_full tx.last filled chained.cells
      simp [store, held] at nothing
    · exact api.contents_ne_nil_of_write tx.last data (eq_false_of_ne_true filled) more
        nothing

theorem extend_chained (tx : TxBuffer C L) (filled : api.full tx.last = true)
    (chained : Chained api tx) : Chained api (tx.extend api) where
  older queue member := by
    rcases List.mem_append.1 member with earlier | added
    · exact chained.older queue earlier
    · rw [List.mem_singleton.1 added]
      exact api.contents_ne_nil_of_full tx.last filled chained.cells
  cells := by simp [extend, tcpMss]

@[simp] theorem extend_pending (tx : TxBuffer C L) :
    (tx.extend api).pending api = tx.pending api := by
  simp [extend, pending]

theorem pushed_conserves (allocations : List Bool) (tx pushed : TxBuffer C L)
    (data : List UInt8)
    (returned : sendBuffer api link allocations (tx.store api data) = some pushed) :
    pushed.sent ++ pushed.pending api =
      tx.sent ++ tx.pending api ++ data.take (api.accepted tx.last data) := by
  rw [sendBuffer_conserves allocations _ pushed returned, store_pending, ← List.append_assoc]
  rfl

theorem writeLoop_conserves (heaps : List Heap) (tx final : TxBuffer C L)
    (data left : List UInt8) (returned : writeLoop api link heaps tx data = some (final, left)) :
    ∃ taken, taken ++ left = data ∧
      final.sent ++ final.pending api = tx.sent ++ tx.pending api ++ taken := by
  induction heaps generalizing tx data with
  | nil =>
    cases data with
    | nil =>
      obtain ⟨rfl, rfl⟩ : tx = final ∧ [] = left := by simpa [writeLoop] using returned
      exact ⟨[], rfl, by simp⟩
    | cons byte bytes => simp [writeLoop] at returned
  | cons heap heaps ih =>
    cases data with
    | nil =>
      obtain ⟨rfl, rfl⟩ : tx = final ∧ [] = left := by simpa [writeLoop] using returned
      exact ⟨[], rfl, by simp⟩
    | cons byte bytes =>
      obtain ⟨pushed, pushing, rest⟩ := Option.bind_eq_some_iff.1 returned
      generalize byte :: bytes = data at pushing rest ⊢
      have stored := pushed_conserves heap.allocations tx pushed data pushing
      generalize api.accepted tx.last data = count at rest stored
      have whole := List.take_append_drop count data
      have after (next : TxBuffer C L) (same : next.sent ++ next.pending api =
            pushed.sent ++ pushed.pending api)
          (later : ∃ taken, taken ++ left = data.drop count ∧
            final.sent ++ final.pending api = next.sent ++ next.pending api ++ taken) :
          ∃ taken, taken ++ left = data ∧
            final.sent ++ final.pending api = tx.sent ++ tx.pending api ++ taken := by
        obtain ⟨taken, tail, kept⟩ := later
        refine ⟨data.take count ++ taken, ?_, ?_⟩
        · rw [List.append_assoc, tail, whole]
        · rw [kept, same, stored, List.append_assoc]
      split at rest
      · split at rest
        · obtain ⟨rfl, rfl⟩ : pushed = final ∧ data.drop count = left := by simpa using rest
          exact ⟨data.take count, whole, stored⟩
        · exact after (pushed.extend api) (by rw [extend_pending]; rfl) (ih _ _ rest)
      · exact after pushed rfl (ih _ _ rest)

theorem writeLoop_settled (heaps : List Heap) (tx final : TxBuffer C L)
    (data left : List UInt8) (chained : Chained api tx) (settled : data = [] → Settled api tx)
    (returned : writeLoop api link heaps tx data = some (final, left)) : Settled api final := by
  induction heaps generalizing tx data with
  | nil =>
    cases data with
    | nil =>
      obtain ⟨rfl, -⟩ : tx = final ∧ [] = left := by simpa [writeLoop] using returned
      exact settled rfl
    | cons byte bytes => simp [writeLoop] at returned
  | cons heap heaps ih =>
    cases data with
    | nil =>
      obtain ⟨rfl, -⟩ : tx = final ∧ [] = left := by simpa [writeLoop] using returned
      exact settled rfl
    | cons byte bytes =>
      obtain ⟨pushed, pushing, rest⟩ := Option.bind_eq_some_iff.1 returned
      generalize whole : byte :: bytes = data at pushing rest
      have more : data ≠ [] := by simp [← whole]
      have kept : Settled api pushed :=
        sendBuffer_settled heap.allocations _ pushed (store_settled tx data more chained) pushing
      split at rest
      next grows =>
        simp only [Bool.and_eq_true] at grows
        split at rest
        · obtain ⟨rfl, -⟩ : pushed = final ∧ data.drop _ = left := by simpa using rest
          exact kept
        · refine ih _ _ (extend_chained pushed grows.1 kept.toChained) ?_ rest
          intro nothing
          simp [nothing] at grows
      next => exact ih _ _ kept.toChained (fun _ => kept) rest

def taken (api : BoundedQueue UInt8 C) (link : Link L E) (tx : TxBuffer C L) : Nat :=
  match tx.client with
  | none => 0
  | some client =>
      (link.write client (api.peek tx.first (min (api.available tx.first) (link.space client)))).2

theorem sendRound_taken (api : BoundedQueue UInt8 C) (link : Link L E) (tx : TxBuffer C L) :
    (tx.sendRound api link).sent.length = tx.sent.length + tx.taken api link := by
  cases client : tx.client with
  | none => simp [sendRound, taken, client]
  | some client' =>
    have bound := link.write_le client'
      (api.peek tx.first (min (api.available tx.first) (link.space client')))
    simp only [sendRound, taken, client, List.length_append, List.length_take]
    omega

theorem sendRound_pending_length (api : BoundedQueue UInt8 C) (link : Link L E)
    (tx : TxBuffer C L) :
    ((tx.sendRound api link).pending api).length + tx.taken api link =
      (tx.pending api).length := by
  have conserved : ((tx.sendRound api link).sent ++ (tx.sendRound api link).pending api).length =
      (tx.sent ++ tx.pending api).length := congrArg List.length (sendRound_conserves tx)
  have sent := sendRound_taken api link tx
  simp only [List.length_append] at conserved
  omega

-- A turn takes a byte, or it follows a full buffer.
def turns (api : BoundedQueue UInt8 C) (tx : TxBuffer C L) (data : List UInt8) : Nat :=
  2 * data.length + if api.full tx.last then 1 else 0

theorem write_conserves (heaps : List Heap) (tx final : TxBuffer C L) (data : List UInt8)
    (count : Nat) (returned : write api link heaps tx data = some (final, count)) :
    final.sent ++ final.pending api = tx.sent ++ tx.pending api ++ data.take count := by
  unfold write at returned
  split at returned
  · obtain ⟨rfl, rfl⟩ : tx = final ∧ 0 = count := by simpa using returned
    simp
  · obtain ⟨⟨other, left⟩, looped, same⟩ := Option.map_eq_some_iff.1 returned
    obtain ⟨rfl, rfl⟩ : other = final ∧ data.length - left.length = count := by simpa using same
    obtain ⟨taken, rfl, kept⟩ := writeLoop_conserves heaps tx other data left looped
    rw [kept, List.length_append, Nat.add_sub_cancel, List.take_left]

theorem write_settled (heaps : List Heap) (tx final : TxBuffer C L) (data : List UInt8)
    (count : Nat) (settled : Settled api tx)
    (returned : write api link heaps tx data = some (final, count)) : Settled api final := by
  unfold write at returned
  split at returned
  · obtain ⟨rfl, -⟩ : tx = final ∧ 0 = count := by simpa using returned
    exact settled
  · obtain ⟨⟨other, left⟩, looped, same⟩ := Option.map_eq_some_iff.1 returned
    obtain ⟨rfl, -⟩ : other = final ∧ data.length - left.length = count := by simpa using same
    exact writeLoop_settled heaps tx other data left settled.toChained (fun _ => settled) looped

theorem sendLoop_none (turns : Nat) (tx : TxBuffer C L) :
    sendLoop api link (List.replicate turns true) tx = none ↔
      ∀ n ≤ turns, ((sendRound api link)^[n] tx).sending api link = true := by
  induction turns generalizing tx with
  | zero =>
    unfold sendLoop
    by_cases sending : tx.sending api link = true <;> simp [sending]
  | succ turns ih =>
    rw [List.replicate_succ]
    unfold sendLoop
    by_cases sending : tx.sending api link = true
    · simp only [sending, if_true, ih]
      constructor
      · intro later n inside
        cases n with
        | zero => exact sending
        | succ n => exact later n (by omega)
      · exact fun all n inside => all (n + 1) (by omega)
    · simp only [sending, Bool.false_eq_true, if_false, reduceCtorEq, false_iff]
      exact fun all => sending (all 0 (Nat.zero_le _))

theorem sendBuffer_none (turns : Nat) (tx : TxBuffer C L) :
    sendBuffer api link (List.replicate turns true) tx = none ↔
      ∀ n ≤ turns, ((sendRound api link)^[n] tx).sending api link = true := by
  unfold sendBuffer
  split
  next stops =>
    simp only [reduceCtorEq, false_iff]
    intro all
    have sending : tx.sending api link = true := all 0 (Nat.zero_le _)
    simp only [TxBuffer.sending, Bool.and_eq_true, decide_eq_true_eq] at sending
    obtain ⟨⟨⟨up, -⟩, held⟩, ready⟩ := sending
    have there : tx.client.isNone = false := by
      cases client : tx.client with
      | none => simp [connected, client] at up
      | some client => rfl
    simp [up, ready, there, Nat.ne_of_gt held] at stops
  next => exact sendLoop_none turns tx

theorem taken_bounded (api : BoundedQueue UInt8 C) (link : Link L E) (tx : TxBuffer C L) (n : Nat) :
    (((sendRound api link)^[n] tx).pending api).length +
        ∑ i ∈ Finset.range n, ((sendRound api link)^[i] tx).taken api link =
      (tx.pending api).length := by
  induction n with
  | zero => simp
  | succ n ih =>
    have round := sendRound_pending_length api link
      ((sendRound api link)^[n] tx)
    rw [Finset.sum_range_succ, Function.iterate_succ_apply']
    omega

/-- With memory for its copies `_sendBuffer` never comes back if and only if it always finds the
client connected, with space and ready to send, and from some turn on the client takes nothing. -/
theorem sendBuffer_spins_iff (tx : TxBuffer C L) :
    (∀ turns, sendBuffer api link (List.replicate turns true) tx = none) ↔
      ∃ turn, ∀ n, ((sendRound api link)^[n] tx).sending api link = true ∧
        (turn ≤ n → ((sendRound api link)^[n] tx).taken api link = 0) := by
  constructor
  · intro spins
    have sending (n : Nat) := (sendBuffer_none n tx).1 (spins n) n (Nat.le_refl n)
    by_contra no
    have again : ∀ turn, ∃ n, turn ≤ n ∧ 0 < ((sendRound api link)^[n] tx).taken api link := by
      intro turn
      by_contra rest
      refine no ⟨turn, fun n => ⟨sending n, fun late => ?_⟩⟩
      by_contra some'
      exact rest ⟨n, late, Nat.pos_of_ne_zero some'⟩
    have more : ∀ count, ∃ n, count ≤
        ∑ i ∈ Finset.range n, ((sendRound api link)^[i] tx).taken api link := by
      intro count
      induction count with
      | zero => exact ⟨0, Nat.zero_le _⟩
      | succ count ih =>
        obtain ⟨n, enough⟩ := ih
        obtain ⟨m, late, some'⟩ := again n
        have grows : ∑ i ∈ Finset.range n, ((sendRound api link)^[i] tx).taken api link ≤
            ∑ i ∈ Finset.range m, ((sendRound api link)^[i] tx).taken api link :=
          Finset.sum_le_sum_of_subset_of_nonneg (Finset.range_mono late) fun _ _ _ =>
            Nat.zero_le _
        exact ⟨m + 1, by rw [Finset.sum_range_succ]; omega⟩
    obtain ⟨n, enough⟩ := more ((tx.pending api).length + 1)
    have bounded := taken_bounded api link tx n
    omega
  · rintro ⟨turn, all⟩ turns
    exact (sendBuffer_none turns tx).2 fun n _ => (all n).1

end TxBuffer

end EspDrone.AsyncTcp

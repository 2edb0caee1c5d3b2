import EspDrone.AsyncTcp.Receive

set_option autoImplicit false

namespace EspDrone.AsyncTcp

def Record.Valid : Record → Prop
  | .chunk _ => True
  | .block length bytes => bytes.length = length
  | .line terminator bytes last =>
      (∀ c ∈ bytes, c ≠ terminator ∧ c ≠ 0) ∧ (last = terminator ∨ last = 0)
  | .cut _ => True

namespace RxBuffer

variable {C σ : Type} {api : BoundedQueue UInt8 C} {app : App σ}

def Reading (rx : RxBuffer C σ) : Prop :=
  match rx.mode with
  | .readBytes => rx.target.length + rx.rxSize = rx.wanted
  | .terminatorString => ∀ c ∈ rx.target, c ≠ rx.rxTerminator ∧ c ≠ 0
  | _ => rx.target = []

structure Framed (rx : RxBuffer C σ) : Prop where
  records : ∀ record ∈ rx.records, record.Valid
  reading : rx.Reading

theorem giveUp_records (rx : RxBuffer C σ) (valid : ∀ record ∈ rx.records, record.Valid) :
    ∀ record ∈ rx.giveUp.records, record.Valid := by
  unfold giveUp
  split
  next => exact valid
  next =>
    intro record member
    rcases List.mem_append.1 member with old | new
    · exact valid record old
    · rw [List.mem_singleton.1 new]
      trivial

theorem giveUp_target (rx : RxBuffer C σ) : rx.giveUp.target = [] := by
  unfold giveUp
  split
  next nothing => exact List.isEmpty_iff.1 nothing
  next => rfl

theorem stop_framed (rx : RxBuffer C σ) (framed : Framed rx) : Framed (rx.stop app) := by
  unfold stop
  split
  next => exact framed
  next =>
    have valid := giveUp_records rx framed.records
    have idle := giveUp_target rx
    split <;> exact ⟨valid, idle⟩

theorem request_framed (rx : RxBuffer C σ) (request : Request) (framed : Framed rx) :
    Framed (rx.request app request) := by
  have valid := giveUp_records rx framed.records
  have idle := giveUp_target rx
  cases request with
  | readBytes length =>
    simp only [RxBuffer.request]
    split
    · exact framed
    · exact ⟨valid, by simp [Reading, idle]⟩
  | readStringUntil terminator =>
    simp only [RxBuffer.request]
    split
    · exact framed
    · exact ⟨valid, by simp [Reading, idle]⟩
  | onData =>
    simp only [RxBuffer.request]
    split
    · exact framed
    · exact ⟨valid, idle⟩
  | noCallback => exact ⟨valid, idle⟩
  | stop => exact stop_framed rx framed

theorem perform_framed (rx : RxBuffer C σ) (requests : List Request) (framed : Framed rx) :
    Framed (rx.perform app requests) := by
  induction requests generalizing rx with
  | nil => exact framed
  | cons request rest ih => exact ih _ (request_framed rx request framed)

theorem records_snoc (rx : RxBuffer C σ) (record : Record)
    (valid : ∀ record ∈ rx.records, record.Valid) (new : record.Valid) :
    ∀ other ∈ rx.records ++ [record], other.Valid := by
  intro other member
  rcases List.mem_append.1 member with old | last
  · exact valid other old
  · rw [List.mem_singleton.1 last]
    exact new

theorem finish_framed (rx : RxBuffer C σ) (record : Record)
    (valid : ∀ record ∈ rx.records, record.Valid) (new : record.Valid) :
    Framed (rx.finish app record) :=
  perform_framed _ _ ⟨records_snoc rx record valid new, rfl⟩

theorem offer_framed (app : App σ) (rx : RxBuffer C σ) (bytes : List UInt8) (framed : Framed rx) :
    Framed (rx.offer app bytes).1 :=
  perform_framed _ _ ⟨records_snoc rx _ framed.records trivial, framed.reading⟩

theorem handleFree_framed (rx : RxBuffer C σ) (data : List UInt8) (framed : Framed rx) :
    Framed (rx.handleFree api app data).1 := by
  have held := offer_framed app rx (api.contents rx.queue) framed
  unfold handleFree
  split
  next => exact framed
  next =>
    simp only []
    split
    next nothing =>
      split
      next => exact offer_framed _ _ _ framed
      next => exact framed
    next =>
      split
      next => exact offer_framed _ _ _ ⟨held.records, held.reading⟩
      next => exact ⟨held.records, held.reading⟩

theorem freshBytes_length (api : BoundedQueue UInt8 C) (queue : C) (size : Nat)
    (data : List UInt8) :
    (freshBytes api queue size data).length ≤ size := by
  unfold freshBytes
  split
  next => exact List.length_take_le ..
  next => exact Nat.zero_le _

theorem handleReadBytes_framed (rx : RxBuffer C σ) (data : List UInt8) (framed : Framed rx)
    (mode : rx.mode = .readBytes) : Framed (rx.handleReadBytes api app data).1 := by
  have old : (api.peek rx.queue rx.rxSize).length ≤ rx.rxSize := List.length_take_le ..
  have new := freshBytes_length api (api.remove rx.queue rx.rxSize)
    (rx.rxSize - (api.peek rx.queue rx.rxSize).length) data
  have reading := framed.reading
  simp only [Reading, mode] at reading
  simp only [handleReadBytes]
  generalize freshBytes api _ _ data = fresh at new ⊢
  have whole : (rx.target ++ api.peek rx.queue rx.rxSize ++ fresh).length +
      (rx.rxSize - (api.peek rx.queue rx.rxSize).length - fresh.length) = rx.wanted := by
    simp only [List.length_append]
    omega
  split
  next none' =>
    rw [none', Nat.add_zero] at whole
    exact finish_framed _ _ framed.records whole
  next => exact ⟨framed.records, by simpa only [Reading, mode] using whole⟩

theorem readLine_line (terminator : UInt8) (bytes : List UInt8) :
    ∀ c ∈ (readLine terminator bytes).1, c ≠ terminator ∧ c ≠ 0 := by
  induction bytes with
  | nil => simp [readLine]
  | cons c rest ih =>
    unfold readLine
    split
    next => simp
    next goes =>
      intro d member
      rcases List.mem_cons.1 member with rfl | later
      · simpa using goes
      · exact ih d later

theorem readLine_last (terminator last : UInt8) (bytes : List UInt8)
    (found : (readLine terminator bytes).2 = some last) : last = terminator ∨ last = 0 := by
  induction bytes with
  | nil => simp [readLine] at found
  | cons c rest ih =>
    unfold readLine at found
    split at found
    next ends =>
      obtain rfl := Option.some.inj found
      simpa using ends
    next => exact ih found

theorem handleString_framed (rx : RxBuffer C σ) (data : List UInt8) (framed : Framed rx)
    (mode : rx.mode = .terminatorString) : Framed (rx.handleString api app data).1 := by
  have reading := framed.reading
  simp only [Reading, mode] at reading
  have old := readLine_line rx.rxTerminator (api.contents rx.queue)
  have new := readLine_line rx.rxTerminator data
  have first : ∀ c ∈ rx.target ++ (readLine rx.rxTerminator (api.contents rx.queue)).1,
      c ≠ rx.rxTerminator ∧ c ≠ 0 := fun c member =>
    (List.mem_append.1 member).elim (reading c) (old c)
  have both : ∀ c ∈ rx.target ++ (readLine rx.rxTerminator (api.contents rx.queue)).1 ++
      (readLine rx.rxTerminator data).1, c ≠ rx.rxTerminator ∧ c ≠ 0 := fun c member =>
    (List.mem_append.1 member).elim (first c) (new c)
  simp only [handleString]
  split
  next last found =>
    exact finish_framed _ _ framed.records ⟨first, readLine_last _ _ _ found⟩
  next =>
    split
    next last found =>
      exact finish_framed _ _ framed.records ⟨both, readLine_last _ _ _ found⟩
    next => exact ⟨framed.records, by simpa only [Reading, mode] using both⟩

theorem handleRxBuffer_handled (api : BoundedQueue UInt8 C) (app : App σ) (rx : RxBuffer C σ)
    (data : List UInt8) (framed : Framed rx) :
    Handled api rx data (rx.handleRxBuffer api app data) ∧
      Framed (rx.handleRxBuffer api app data).1 := by
  have reading := framed.reading
  unfold handleRxBuffer
  split
  next => exact ⟨.nothing rx data, framed⟩
  next =>
    cases mode : rx.mode with
    | none | terminator => exact ⟨.nothing rx data, framed⟩
    | free =>
      simp only [Reading, mode] at reading
      exact ⟨handleFree_handled rx data reading, handleFree_framed rx data framed⟩
    | readBytes =>
      exact ⟨handleReadBytes_handled rx data, handleReadBytes_framed rx data framed mode⟩
    | terminatorString =>
      exact ⟨handleString_handled rx data, handleString_framed rx data framed mode⟩

theorem handleKept_once (api : BoundedQueue UInt8 C) (app : App σ) (rx : RxBuffer C σ)
    (framed : Framed rx) :
    rx.handleKept api app = rx ∨ rx.handleKept api app = (rx.handleRxBuffer api app []).1 := by
  have inside := (handleRxBuffer_handled api app rx [] framed).1.inside
  simp only [handleKept, Nat.le_zero.1 inside]
  split
  next =>
    right
    cases api.available rx.queue <;> simp [keptLoop]
  next => exact .inl rfl

structure Passed (api : BoundedQueue UInt8 C) (rx : RxBuffer C σ) (data : List UInt8)
    (result : RxBuffer C σ × List UInt8) : Prop where
  stream : result.1.flat ++ api.contents result.1.queue ++ result.2 =
    rx.flat ++ api.contents rx.queue ++ data
  received : result.1.received = rx.received
  dropped : result.1.dropped = rx.dropped
  refused : result.1.refused = rx.refused
  framed : Framed result.1

theorem Passed.nothing (rx : RxBuffer C σ) (data : List UInt8) (framed : Framed rx) :
    Passed api rx data (rx, data) :=
  ⟨rfl, rfl, rfl, rfl, framed⟩

theorem Passed.trans {rx : RxBuffer C σ} {data : List UInt8}
    {middle result : RxBuffer C σ × List UInt8} (early : Passed api rx data middle)
    (late : Passed api middle.1 middle.2 result) : Passed api rx data result :=
  ⟨late.stream.trans early.stream, late.received.trans early.received,
    late.dropped.trans early.dropped, late.refused.trans early.refused, late.framed⟩

theorem handleRxBuffer_passed (api : BoundedQueue UInt8 C) (app : App σ) (rx : RxBuffer C σ)
    (data : List UInt8) (framed : Framed rx) :
    Passed api rx data
      ((rx.handleRxBuffer api app data).1, data.drop (rx.handleRxBuffer api app data).2) := by
  have handled := handleRxBuffer_handled api app rx data framed
  exact ⟨handled.1.stream, handled.1.received, handled.1.dropped, handled.1.refused, handled.2⟩

theorem handleLoop_passed (turns : Nat) (rx : RxBuffer C σ) (data : List UInt8) (handled : Nat)
    (framed : Framed rx) : Passed api rx data (rx.handleLoop api app turns data handled) := by
  induction turns generalizing rx data handled with
  | zero => exact .nothing rx data framed
  | succ turns ih =>
    unfold handleLoop
    split
    next =>
      have next := handleRxBuffer_passed api app rx data framed
      exact next.trans (ih _ _ _ next.framed)
    next => exact .nothing rx data framed

theorem handleDirect_passed (api : BoundedQueue UInt8 C) (app : App σ) (rx : RxBuffer C σ)
    (data : List UInt8) (framed : Framed rx) :
    Passed api rx data (rx.handleDirect api app data) := by
  have first := handleRxBuffer_passed api app rx data framed
  unfold handleDirect
  split
  next => exact .nothing rx data framed
  next =>
    simp only []
    split
    next => exact first.trans (handleLoop_passed _ _ _ _ first.framed)
    next => exact first

-- What has come in is delivered, held or dropped, and nothing is reordered unless some of it
-- has been dropped.
structure Ordered (api : BoundedQueue UInt8 C) (rx : RxBuffer C σ) : Prop where
  length : rx.flat.length + api.available rx.queue + rx.dropped + rx.refused.length =
    rx.received.length
  stream : rx.dropped = 0 → rx.flat ++ api.contents rx.queue ++ rx.refused = rx.received
  framed : Framed rx

def Up (rx : RxBuffer C σ) : Prop := rx.client = true ∧ rx.connected = true

structure Delivered (api : BoundedQueue UInt8 C) (rx : RxBuffer C σ) : Prop
    extends Ordered api rx where
  up : rx.Up → rx.refused = []

theorem initial_delivered (api : BoundedQueue UInt8 C) (start : σ) : Delivered api
    (initial api start : RxBuffer C σ) where
  length := by simp [initial, flat, BoundedQueue.available]
  stream _ := by simp [initial, flat]
  framed := ⟨by simp [initial], rfl⟩
  up _ := rfl

theorem giveUp_up (rx : RxBuffer C σ) (up : rx.giveUp.Up) : rx.Up := by
  unfold giveUp at up
  split at up <;> exact up

theorem request_up (rx : RxBuffer C σ) (request : Request) (up : (rx.request app request).Up) :
    rx.Up := by
  cases request with
  | readBytes length | readStringUntil terminator | onData =>
    simp only [RxBuffer.request] at up
    split at up
    · exact up
    · exact giveUp_up rx up
  | noCallback => exact giveUp_up rx up
  | stop =>
    simp only [RxBuffer.request, stop] at up
    split at up
    · exact up
    · split at up <;> exact absurd up.1 Bool.false_ne_true

theorem perform_up (rx : RxBuffer C σ) (requests : List Request)
    (up : (rx.perform app requests).Up) : rx.Up := by
  induction requests generalizing rx with
  | nil => exact up
  | cons request rest ih => exact request_up rx request (ih _ up)

theorem perform_delivered (rx : RxBuffer C σ) (requests : List Request)
    (delivered : Delivered api rx) : Delivered api (rx.perform app requests) where
  length := by
    have quiet := perform_quiet app rx requests
    rw [quiet.flat, quiet.queue, quiet.dropped, quiet.refused, quiet.received]
    exact delivered.length
  stream := by
    have quiet := perform_quiet app rx requests
    rw [quiet.flat, quiet.queue, quiet.dropped, quiet.refused, quiet.received]
    exact delivered.stream
  framed := perform_framed rx requests delivered.framed
  up still := (perform_quiet app rx requests).refused.trans
    (delivered.up (perform_up rx requests still))

theorem handleKept_passed (api : BoundedQueue UInt8 C) (app : App σ) (rx : RxBuffer C σ)
    (framed : Framed rx) :
    Passed api rx [] (rx.handleKept api app, []) := by
  have handled := handleRxBuffer_passed api app rx [] framed
  simp only [List.drop_nil] at handled
  rcases handleKept_once api app rx framed with same | once
  · rw [same]
    exact .nothing rx [] framed
  · rw [once]
    exact handled

theorem handleKept_ordered (rx : RxBuffer C σ) (ordered : Ordered api rx) :
    Ordered api (rx.handleKept api app) := by
  have passed := handleKept_passed api app rx ordered.framed
  have stream := passed.stream
  simp only [List.append_nil] at stream
  refine ⟨?_, fun complete => ?_, passed.framed⟩
  · have length := congrArg List.length stream
    simp only [List.length_append] at length
    rw [passed.received, passed.dropped, passed.refused, ← ordered.length]
    unfold BoundedQueue.available
    omega
  · rw [passed.received, stream, passed.refused]
    exact ordered.stream (passed.dropped ▸ complete)

theorem keep_contents (api : BoundedQueue UInt8 C) (heap : Bool) (rx : RxBuffer C σ)
    (data : List UInt8) :
    ∃ (queue : C) (room : Nat), api.contents queue = api.contents rx.queue ++ data.take room ∧
      (heap = true → data.length ≤ room) ∧
      rx.keep api heap data =
        { rx with queue := queue, dropped := rx.dropped + (data.length - room) } := by
  unfold keep
  split
  next nothing =>
    have none' := List.isEmpty_iff.1 nothing
    exact ⟨rx.queue, 0, by simp [none'], by simp [none'], by simp [none']⟩
  next =>
    simp only []
    by_cases enlarged : (decide (api.room rx.queue < data.length) && heap) = true
    · simp only [enlarged, if_true]
      have enough := api.room_resizeAdd rx.queue (data.length + api.room rx.queue)
      exact ⟨_, _, by rw [api.contents_write, api.contents_resizeAdd], fun _ => by omega, rfl⟩
    · simp only [enlarged]
      refine ⟨_, _, api.contents_write _ _, fun able => ?_, rfl⟩
      simp only [able, Bool.and_true, decide_eq_true_eq] at enlarged
      omega

theorem cleanUp_contents (api : BoundedQueue UInt8 C) (heap : Bool) (rx : RxBuffer C σ) :
    ∃ queue : C, api.contents queue = api.contents rx.queue ∧
      rx.cleanUp api heap = { rx with queue := queue } := by
  unfold cleanUp
  split
  next empty =>
    simp only [Bool.and_eq_true, BoundedQueue.empty_iff] at empty
    exact ⟨_, api.contents_resize _ _ (by simp [empty.1.1]), rfl⟩
  next => exact ⟨rx.queue, rfl, rfl⟩

theorem keep_ordered (heap : Bool) (rx result : RxBuffer C σ) (data rest : List UInt8)
    (ordered : Ordered api rx) (none' : rx.refused = [])
    (passed : Passed api { rx with received := rx.received ++ data } data (result, rest)) :
    Ordered api (result.keep api heap rest) := by
  obtain ⟨queue, room, contents, -, kept⟩ := keep_contents api heap result rest
  have length := congrArg List.length passed.stream
  have total := ordered.length
  have received : result.received = rx.received ++ data := passed.received
  have dropped : result.dropped = rx.dropped := passed.dropped
  have refused : result.refused = [] := passed.refused.trans none'
  rw [kept]
  refine ⟨?_, fun complete => ?_, passed.framed.records, passed.framed.reading⟩
  · simp only [BoundedQueue.available, contents, received, dropped, refused, none',
      List.length_append, List.length_take, List.length_nil] at length total ⊢
    change result.flat.length + _ + _ + _ = _
    change _ = rx.flat.length + _ + _ at length
    omega
  · simp only [dropped] at complete
    have whole : rest.take room = rest := List.take_of_length_le (by omega)
    have stream := passed.stream
    have before := ordered.stream (by omega)
    rw [none', List.append_nil] at before
    change result.flat ++ api.contents queue ++ result.refused = result.received
    rw [contents, whole, refused, List.append_nil, ← List.append_assoc, stream, received, ← before]
    rfl

theorem cleanUp_ordered (heap : Bool) (rx : RxBuffer C σ) (ordered : Ordered api rx) :
    Ordered api (rx.cleanUp api heap) := by
  obtain ⟨queue, contents, cleaned⟩ := cleanUp_contents api heap rx
  rw [cleaned]
  refine ⟨?_, fun complete => ?_, ordered.framed.records, ordered.framed.reading⟩
  · have length := ordered.length
    simpa only [BoundedQueue.available, contents, flat] using length
  · have stream := ordered.stream complete
    simpa only [contents, flat] using stream

theorem rxData_refused (heap : Bool) (rx : RxBuffer C σ) (data : List UInt8) (down : ¬rx.Up) :
    rx.rxData api app heap data =
      { rx with received := rx.received ++ data, refused := rx.refused ++ data } := by
  have gone : (!rx.client || !rx.connected) = true := by
    simpa [Up, or_iff_not_imp_left] using down
  simp only [rxData, gone, if_true]

theorem rxData_up (heap : Bool) (rx : RxBuffer C σ) (data : List UInt8) (up : rx.Up) :
    rx.rxData api app heap data =
      let direct := { rx with received := rx.received ++ data }.handleDirect api app data
      cleanUp api heap ((direct.1.keep api heap direct.2).handleKept api app) := by
  simp [rxData, up.1, up.2]

theorem keep_refused (heap : Bool) (rx : RxBuffer C σ) (data : List UInt8) :
    (rx.keep api heap data).refused = rx.refused := by
  unfold keep
  split <;> rfl

theorem cleanUp_refused (heap : Bool) (rx : RxBuffer C σ) :
    (rx.cleanUp api heap).refused = rx.refused := by
  unfold cleanUp
  split <;> rfl

theorem rxData_delivered (heap : Bool) (rx : RxBuffer C σ) (data : List UInt8)
    (delivered : Delivered api rx) : Delivered api (rx.rxData api app heap data) := by
  by_cases up : rx.Up
  · have none' := delivered.up up
    have passed := handleDirect_passed api app
      { rx with received := rx.received ++ data } data
      ⟨delivered.framed.records, delivered.framed.reading⟩
    rw [rxData_up heap rx data up]
    simp only []
    generalize handleDirect api app _ data = direct at passed ⊢
    have kept := keep_ordered heap rx direct.1 data direct.2 delivered.toOrdered none' passed
    have handled := handleKept_passed api app _ kept.framed
    refine ⟨cleanUp_ordered heap _ (handleKept_ordered _ kept), fun _ => ?_⟩
    rw [cleanUp_refused, handled.refused, keep_refused, passed.refused]
    exact none'
  · rw [rxData_refused heap rx data up]
    refine ⟨⟨?_, fun complete => ?_, delivered.framed.records, delivered.framed.reading⟩,
      fun still => absurd still up⟩
    · have length := delivered.length
      simp only [List.length_append, ← length]
      change rx.flat.length + _ + _ + _ = _
      omega
    · have stream := delivered.stream complete
      simp only [← stream, List.append_assoc]
      rfl

-- Incoming data with whether the heap has memory, what the sketch asks for between, the end of
-- the client, and the connection going down before it.
inductive Event where
  | data (heap : Bool) (bytes : List UInt8)
  | requests (requests : List Request)
  | disconnect
  | closing
  deriving DecidableEq, Repr

def step (api : BoundedQueue UInt8 C) (app : App σ) (rx : RxBuffer C σ) : Event → RxBuffer C σ
  | .data heap bytes => rx.rxData api app heap bytes
  | .requests requests => rx.perform app requests
  -- onDisconnect: b->_client = NULL, and the read under way is not told.
  | .disconnect => { rx with client := false }
  | .closing => { rx with connected := false }

def run (api : BoundedQueue UInt8 C) (app : App σ) (rx : RxBuffer C σ) (events : List Event) :
    RxBuffer C σ :=
  events.foldl (step api app) rx

theorem step_delivered (rx : RxBuffer C σ) (event : Event) (delivered : Delivered api rx) :
    Delivered api (rx.step api app event) := by
  cases event with
  | data heap bytes => exact rxData_delivered heap rx bytes delivered
  | requests requests => exact perform_delivered rx requests delivered
  | disconnect =>
    exact ⟨⟨delivered.length, delivered.stream, delivered.framed.records,
      delivered.framed.reading⟩, fun up => absurd up.1 Bool.false_ne_true⟩
  | closing =>
    exact ⟨⟨delivered.length, delivered.stream, delivered.framed.records,
      delivered.framed.reading⟩, fun up => absurd up.2 Bool.false_ne_true⟩

theorem run_delivered (app : App σ) (rx : RxBuffer C σ) (events : List Event)
    (delivered : Delivered api rx) :
    Delivered api (rx.run api app events) := by
  induction events generalizing rx with
  | nil => exact delivered
  | cons event rest ih => exact ih _ (step_delivered rx event delivered)

def Backlog (api : BoundedQueue UInt8 C) (rx : RxBuffer C σ) : Prop :=
  match rx.mode with
  | .readBytes => rx.rxSize < api.available rx.queue
  | .terminatorString =>
      (readLine rx.rxTerminator (api.contents rx.queue)).2 ≠ none ∧
        (readLine rx.rxTerminator (api.contents rx.queue)).1.length + 1 < api.available rx.queue
  | _ => False

theorem request_records (rx : RxBuffer C σ) (request : Request) (idle : rx.target = []) :
    (rx.request app request).records = rx.records := by
  have given : rx.giveUp = rx := by simp [giveUp, idle]
  cases request with
  | readBytes length | readStringUntil terminator | onData =>
    simp only [RxBuffer.request, given]
    split <;> rfl
  | noCallback => simp only [RxBuffer.request, given]
  | stop =>
    simp only [RxBuffer.request, stop, given]
    split
    · rfl
    · split <;> rfl

theorem perform_records (rx : RxBuffer C σ) (requests : List Request) (idle : rx.target = []) :
    (rx.perform app requests).records = rx.records := by
  induction requests generalizing rx with
  | nil => rfl
  | cons request rest ih =>
    exact (ih _ (request_target rx request idle)).trans (request_records rx request idle)

theorem finish_records (rx : RxBuffer C σ) (record : Record) :
    (rx.finish app record).records = rx.records ++ [record] :=
  perform_records _ _ rfl

-- One call completes one read at most, and hands over the ring buffer at most once when there is
-- no new data.
theorem handleRxBuffer_records (api : BoundedQueue UInt8 C) (app : App σ) (rx : RxBuffer C σ)
    (data : List UInt8) (framed : Framed rx)
    (plain : rx.mode = .free → data = []) :
    (rx.handleRxBuffer api app data).1.records.length ≤ rx.records.length + 1 := by
  have reading := framed.reading
  unfold handleRxBuffer
  split
  next => exact Nat.le_succ _
  next =>
    cases mode : rx.mode with
    | none | terminator => exact Nat.le_succ _
    | free =>
      simp only [Reading, mode] at reading
      have offered : (rx.offer app (api.contents rx.queue)).1.records = _ :=
        perform_records _ _ reading
      simp only [handleFree, plain mode, List.isEmpty_nil, Bool.not_true, Bool.and_false,
        Bool.false_eq_true, if_false]
      split
      · exact Nat.le_succ _
      · split
        · exact Nat.le_succ _
        · simp only [offered, List.length_append, List.length_singleton, Nat.le_refl]
    | readBytes =>
      simp only [handleReadBytes]
      split
      · simp only [finish_records, List.length_append, List.length_singleton, Nat.le_refl]
      · exact Nat.le_succ _
    | terminatorString =>
      simp only [handleString]
      split
      · simp only [finish_records, List.length_append, List.length_singleton, Nat.le_refl]
      · split
        · simp only [finish_records, List.length_append, List.length_singleton, Nat.le_refl]
        · exact Nat.le_succ _

theorem remove_left (queue : C) (count : Nat) (more : count < api.available queue) :
    api.empty (api.remove queue count) = false := by
  rw [← Bool.not_eq_true, BoundedQueue.empty_iff, api.contents_remove, List.drop_eq_nil_iff]
  exact Nat.not_le_of_lt more

theorem handleRxBuffer_left (app : App σ) (rx : RxBuffer C σ) (data : List UInt8)
    (backlog : Backlog api rx)
    (client : rx.client = true) (connected : rx.connected = true) :
    api.empty (rx.handleRxBuffer api app data).1.queue = false := by
  simp only [handleRxBuffer, client, connected, Bool.not_true, Bool.or_self, Bool.false_eq_true,
    if_false]
  cases mode : rx.mode with
  | none | terminator | free => simp [Backlog, mode] at backlog
  | readBytes =>
    simp only [Backlog, mode] at backlog
    have left := remove_left rx.queue rx.rxSize backlog
    simp only [handleReadBytes]
    split
    · rw [(finish_quiet app _ _).queue, left]
    · exact left
  | terminatorString =>
    simp only [Backlog, mode] at backlog
    obtain ⟨last, found⟩ := Option.ne_none_iff_exists'.1 backlog.1
    have left := remove_left rx.queue _ backlog.2
    simp only [handleString, found]
    rw [(finish_quiet app _ _).queue, left]

theorem rxData_backlog (heap : Bool) (rx : RxBuffer C σ) (data : List UInt8) (framed : Framed rx)
    (backlog : Backlog api rx) :
    (rx.rxData api app heap data).records.length ≤ rx.records.length + 2 := by
  by_cases up : rx.Up
  next =>
    rw [rxData_up heap rx data up]
    have reading : rx.mode ≠ .none ∧ rx.mode ≠ .free := by
      constructor <;> (intro mode; simp [Backlog, mode] at backlog)
    have framed' : Framed { rx with received := rx.received ++ data } :=
      ⟨framed.records, framed.reading⟩
    have first := handleRxBuffer_records api app
      { rx with received := rx.received ++ data } data framed' fun free => absurd free reading.2
    have left := handleRxBuffer_left app { rx with received := rx.received ++ data } data
      backlog up.1 up.2
    have passed := handleRxBuffer_passed api app
      { rx with received := rx.received ++ data } data framed'
    have direct : handleDirect api app { rx with received := rx.received ++ data } data =
        ((handleRxBuffer api app { rx with received := rx.received ++ data } data).1, data.drop
          (handleRxBuffer api app { rx with received := rx.received ++ data } data).2) := by
      simp [handleDirect, reading.1, left]
    rw [direct]
    generalize handleRxBuffer api app { rx with received := rx.received ++ data } data = next
      at first passed ⊢
    obtain ⟨queue, room, -, -, kept⟩ := keep_contents api heap next.1 (data.drop next.2)
    obtain ⟨clean, -, cleaned⟩ := cleanUp_contents api heap
      ((next.1.keep api heap (data.drop next.2)).handleKept api app)
    simp only [cleaned]
    have stored : Framed (next.1.keep api heap (data.drop next.2)) := by
      rw [kept]
      exact ⟨passed.framed.records, passed.framed.reading⟩
    have second := handleRxBuffer_records api app
      (next.1.keep api heap (data.drop next.2)) [] stored fun _ => rfl
    have same : (next.1.keep api heap (data.drop next.2)).records = next.1.records := by rw [kept]
    rw [same] at second
    rcases handleKept_once api app _ stored with idle | once
    · rw [idle, same]
      exact Nat.le_succ_of_le first
    · rw [once]
      exact Nat.le_trans second (Nat.succ_le_succ first)
  next =>
    rw [rxData_refused heap rx data up]
    exact Nat.le_add_right _ 2

/--
While the ring buffer holds more than the read under way, a segment completes
at most two reads, however long it is and however many lines are kept: the loop
over the ring buffer stops after one turn.
-/
theorem backlog_two_records (api : BoundedQueue UInt8 C) (app : App σ) (start : σ)
    (events : List Event) (heap : Bool) (data : List UInt8)
    (backlog : Backlog api ((initial api start : RxBuffer C σ).run api app events)) :
    (((initial api start : RxBuffer C σ).run api app events).rxData api app heap
        data).records.length ≤
      ((initial api start : RxBuffer C σ).run api app events).records.length + 2 :=
  rxData_backlog heap _ data (run_delivered _ _ events (initial_delivered _ start)).framed backlog

theorem backlog_two_records_lines :
    let app : App Unit := ⟨fun _ _ => ((), 0, []), fun _ _ _ => ((), [.readStringUntil 10]),
      fun _ _ => Nat.zero_le _⟩
    let events : List Event :=
      [.requests [.noCallback], .data true [65, 10, 66, 10, 67, 10],
        .requests [.readStringUntil 10]]
    let rx := (initial (BoundedQueue.listed UInt8) ()).run (BoundedQueue.listed UInt8) app events
    (rx.rxData (BoundedQueue.listed UInt8) app true [68, 10, 69, 10]).records.length ≤
      rx.records.length + 2 :=
  backlog_two_records (BoundedQueue.listed UInt8) _ () _ true [68, 10, 69, 10]
    ⟨by decide, by decide⟩

end RxBuffer

end EspDrone.AsyncTcp

import EspDrone.Shared.BoundedQueue
import EspDrone.Shared.Runs

set_option autoImplicit false

namespace EspDrone.AsyncTcp

inductive RxMode where
  | none
  | free
  | readBytes
  | terminator
  | terminatorString
  deriving DecidableEq, Repr

inductive Request where
  | readBytes (length : Nat)
  | readStringUntil (terminator : UInt8)
  | onData
  | noCallback
  | stop
  deriving DecidableEq, Repr

-- What the sketch has been given: raw data, a block, a line with the byte that ended it, and
-- the part of a read that was given up.
inductive Record where
  | chunk (bytes : List UInt8)
  | block (length : Nat) (bytes : List UInt8)
  | line (terminator : UInt8) (bytes : List UInt8) (last : UInt8)
  | cut (bytes : List UInt8)
  deriving DecidableEq, Repr

def Record.raw : Record → List UInt8
  | .chunk bytes => bytes
  | .block _ bytes => bytes
  | .line _ bytes last => bytes ++ [last]
  | .cut bytes => bytes

-- The callbacks of the sketch, with the requests each makes. _cbRX tells how much it has used.
structure App (σ : Type) where
  onData : σ → List UInt8 → σ × Nat × List Request
  onDone : σ → Bool → List UInt8 → σ × List Request
  onData_le : ∀ app bytes, (onData app bytes).2.1 ≤ bytes.length

-- `target` is what the read under way has stored and `wanted` how much it asked for. `dropped`
-- counts the bytes for which the ring buffer could not be enlarged, and `refused` are those that
-- came in after the connection was gone.
structure RxBuffer (C σ : Type) where
  app : σ
  client : Bool
  connected : Bool
  queue : C
  mode : RxMode
  rxSize : Nat
  rxTerminator : UInt8
  cbRX : Bool
  target : List UInt8
  wanted : Nat
  records : List Record
  received : List UInt8
  dropped : Nat
  refused : List UInt8
  deriving DecidableEq, Repr

namespace RxBuffer

variable {C σ : Type} (api : BoundedQueue UInt8 C) (app : App σ)

def initial (start : σ) : RxBuffer C σ :=
  { app := start, client := true, connected := true, queue := api.new 100, mode := .free
    rxSize := 0, rxTerminator := 0, cbRX := false, target := [], wanted := 0, records := []
    received := [], dropped := 0, refused := [] }

def giveUp (rx : RxBuffer C σ) : RxBuffer C σ :=
  if rx.target.isEmpty then rx
  else { rx with records := rx.records ++ [.cut rx.target], target := [] }

def stop (rx : RxBuffer C σ) : RxBuffer C σ :=
  if !rx.client then rx
  else
    let stopped := { rx.giveUp with client := false, mode := .none }
    match rx.mode with
    | .readBytes | .terminator | .terminatorString =>
        { stopped with app := (app.onDone rx.app false []).1 }
    | _ => stopped

def request (rx : RxBuffer C σ) : Request → RxBuffer C σ
  | .readBytes length =>
      if !rx.client then rx
      else { rx.giveUp with mode := .readBytes, rxSize := length, wanted := length }
  | .readStringUntil terminator =>
      if !rx.client then rx
      else { rx.giveUp with mode := .terminatorString, rxSize := 0, rxTerminator := terminator }
  | .onData => if !rx.client then rx else { rx.giveUp with mode := .free, cbRX := true }
  | .noCallback => { rx.giveUp with mode := .none }
  | .stop => rx.stop app

def perform (rx : RxBuffer C σ) (requests : List Request) : RxBuffer C σ :=
  requests.foldl (request app) rx

-- _RXmode = ATB_RX_MODE_NONE; _cbDone(true, ...)
def finish (rx : RxBuffer C σ) (record : Record) : RxBuffer C σ :=
  let answer := app.onDone rx.app true rx.target
  perform app
    { rx with
      mode := .none
      app := answer.1
      records := rx.records ++ [record]
      target := [] } answer.2

def offer (rx : RxBuffer C σ) (bytes : List UInt8) : RxBuffer C σ × Nat :=
  let answer := app.onData rx.app bytes
  (perform app
    { rx with
      app := answer.1
      records := rx.records ++ [.chunk (bytes.take answer.2.1)] } answer.2.2, answer.2.1)

def handleFree (rx : RxBuffer C σ) (data : List UInt8) : RxBuffer C σ × Nat :=
  if !rx.cbRX then (rx, 0)
  else
    let held := api.contents rx.queue
    let first :=
      if held.isEmpty then (rx, 0)
      else
        let taken := rx.offer app held
        ({ taken.1 with queue := api.remove taken.1.queue taken.2 }, taken.2)
    if first.2 == held.length && !data.isEmpty then first.1.offer app data else (first.1, 0)

def freshBytes (queue : C) (size : Nat) (data : List UInt8) : List UInt8 :=
  if api.empty queue then data.take size else []

def handleReadBytes (rx : RxBuffer C σ) (data : List UInt8) : RxBuffer C σ × Nat :=
  let old := api.peek rx.queue rx.rxSize
  let queue := api.remove rx.queue rx.rxSize
  let fresh := freshBytes api queue (rx.rxSize - old.length) data
  let read := { rx with
    queue := queue
    target := rx.target ++ old ++ fresh
    rxSize := rx.rxSize - old.length - fresh.length }
  (if read.rxSize = 0 then read.finish app (.block read.wanted read.target) else read,
    fresh.length)

def readLine (terminator : UInt8) : List UInt8 → List UInt8 × Option UInt8
  | [] => ([], none)
  | c :: rest =>
      if c == terminator || c == 0 then ([], some c)
      else
        let later := readLine terminator rest
        (c :: later.1, later.2)

def handleString (rx : RxBuffer C σ) (data : List UInt8) : RxBuffer C σ × Nat :=
  let old := readLine rx.rxTerminator (api.contents rx.queue)
  let read := { rx with target := rx.target ++ old.1 }
  match old.2 with
  | some last =>
      ({ read with queue := api.remove rx.queue (old.1.length + 1) }.finish app
        (.line rx.rxTerminator read.target last), 0)
  | none =>
      let drained := { read with queue := api.remove rx.queue old.1.length }
      let fresh := readLine rx.rxTerminator data
      let filled := { drained with target := drained.target ++ fresh.1 }
      match fresh.2 with
      | some last =>
          (filled.finish app (.line rx.rxTerminator filled.target last), fresh.1.length + 1)
      | none => (filled, fresh.1.length)

-- _handleRxBuffer; no data stands for (NULL, 0).
def handleRxBuffer (rx : RxBuffer C σ) (data : List UInt8) : RxBuffer C σ × Nat :=
  if !rx.client || !rx.connected then (rx, 0)
  else
    match rx.mode with
    | .none => (rx, 0)
    | .free => rx.handleFree api app data
    | .readBytes => rx.handleReadBytes api app data
    | .terminator => (rx, 0)
    | .terminatorString => rx.handleString api app data

-- while (_RXmode != ATB_RX_MODE_NONE && handled != 0 && len > 0); every turn uses a byte, so
-- the length bounds the turns.
def handleLoop : Nat → RxBuffer C σ → List UInt8 → Nat → RxBuffer C σ × List UInt8
  | 0, rx, data, _ => (rx, data)
  | turns + 1, rx, data, handled =>
      if rx.mode ≠ .none ∧ handled ≠ 0 ∧ data ≠ [] then
        let next := rx.handleRxBuffer api app data
        handleLoop turns next.1 (data.drop next.2) next.2
      else (rx, data)

def handleDirect (rx : RxBuffer C σ) (data : List UInt8) : RxBuffer C σ × List UInt8 :=
  if rx.mode = .none then (rx, data)
  else
    let first := rx.handleRxBuffer api app data
    if api.empty first.1.queue then
      handleLoop api app data.length first.1 (data.drop first.2) first.2
    else (first.1, data.drop first.2)

def keep (heap : Bool) (rx : RxBuffer C σ) (data : List UInt8) : RxBuffer C σ :=
  if data.isEmpty then rx
  else
    let room := api.room rx.queue
    let queue :=
      if decide (room < data.length) && heap then api.resizeAdd rx.queue (data.length + room)
      else rx.queue
    { rx with
      queue := api.write queue data
      dropped := rx.dropped + (data.length - api.room queue) }

-- while (_RXmode != ATB_RX_MODE_NONE && handled != 0)
def keptLoop : Nat → RxBuffer C σ → Nat → RxBuffer C σ
  | 0, rx, _ => rx
  | turns + 1, rx, handled =>
      if rx.mode ≠ .none ∧ handled ≠ 0 then
        let next := rx.handleRxBuffer api app []
        keptLoop turns next.1 next.2
      else rx

def handleKept (rx : RxBuffer C σ) : RxBuffer C σ :=
  if !(api.empty rx.queue) && rx.mode != .none then
    let first := rx.handleRxBuffer api app []
    keptLoop api app (api.available rx.queue) first.1 first.2
  else rx

def cleanUp (heap : Bool) (rx : RxBuffer C σ) : RxBuffer C σ :=
  if api.empty rx.queue && api.room rx.queue != 100 && heap then
    { rx with queue := api.resize rx.queue 100 }
  else rx

def rxData (heap : Bool) (rx : RxBuffer C σ) (data : List UInt8) : RxBuffer C σ :=
  if !rx.client || !rx.connected then
    { rx with received := rx.received ++ data, refused := rx.refused ++ data }
  else
    let direct := { rx with received := rx.received ++ data }.handleDirect api app data
    cleanUp api heap ((direct.1.keep api heap direct.2).handleKept api app)

def flat (rx : RxBuffer C σ) : List UInt8 := (rx.records.map Record.raw).flatten ++ rx.target

end RxBuffer

namespace RxBuffer

variable {C σ : Type} {api : BoundedQueue UInt8 C} {app : App σ}

structure Quiet (before after : RxBuffer C σ) : Prop where
  flat : after.flat = before.flat
  queue : after.queue = before.queue
  received : after.received = before.received
  dropped : after.dropped = before.dropped
  refused : after.refused = before.refused

theorem Quiet.trans {first second third : RxBuffer C σ} (early : Quiet first second)
    (late : Quiet second third) : Quiet first third where
  flat := late.flat.trans early.flat
  queue := late.queue.trans early.queue
  received := late.received.trans early.received
  dropped := late.dropped.trans early.dropped
  refused := late.refused.trans early.refused

theorem giveUp_quiet (rx : RxBuffer C σ) : Quiet rx rx.giveUp := by
  unfold giveUp
  split
  next => exact ⟨rfl, rfl, rfl, rfl, rfl⟩
  next => exact ⟨by simp [RxBuffer.flat, Record.raw], rfl, rfl, rfl, rfl⟩

theorem stop_quiet (rx : RxBuffer C σ) : Quiet rx (rx.stop app) := by
  have given := giveUp_quiet rx
  unfold stop
  split
  next => exact ⟨rfl, rfl, rfl, rfl, rfl⟩
  next => split <;> exact ⟨given.flat, given.queue, given.received, given.dropped, given.refused⟩

theorem request_quiet (app : App σ) (rx : RxBuffer C σ) (request : Request) :
    Quiet rx (rx.request app request) := by
  have given := giveUp_quiet rx
  have kept : Quiet rx rx := ⟨rfl, rfl, rfl, rfl, rfl⟩
  cases request with
  | readBytes length =>
    simp only [RxBuffer.request]
    split
    · exact kept
    · exact ⟨given.flat, given.queue, given.received, given.dropped, given.refused⟩
  | readStringUntil terminator =>
    simp only [RxBuffer.request]
    split
    · exact kept
    · exact ⟨given.flat, given.queue, given.received, given.dropped, given.refused⟩
  | onData =>
    simp only [RxBuffer.request]
    split
    · exact kept
    · exact ⟨given.flat, given.queue, given.received, given.dropped, given.refused⟩
  | noCallback => exact ⟨given.flat, given.queue, given.received, given.dropped, given.refused⟩
  | stop => exact stop_quiet rx

theorem perform_quiet (app : App σ) (rx : RxBuffer C σ) (requests : List Request) :
    Quiet rx (rx.perform app requests) := by
  induction requests generalizing rx with
  | nil => exact ⟨rfl, rfl, rfl, rfl, rfl⟩
  | cons request rest ih => exact (request_quiet _ rx request).trans (ih _)

theorem request_target (rx : RxBuffer C σ) (request : Request) (idle : rx.target = []) :
    (rx.request app request).target = [] := by
  have given : rx.giveUp = rx := by simp [giveUp, idle]
  cases request with
  | readBytes length | readStringUntil terminator | onData =>
    simp only [RxBuffer.request, given]
    split <;> exact idle
  | noCallback => simpa [RxBuffer.request, given] using idle
  | stop =>
    simp only [RxBuffer.request, stop, given]
    split
    · exact idle
    · split <;> exact idle

theorem perform_target (rx : RxBuffer C σ) (requests : List Request) (idle : rx.target = []) :
    (rx.perform app requests).target = [] := by
  induction requests generalizing rx with
  | nil => exact idle
  | cons request rest ih => exact ih _ (request_target rx request idle)

theorem finish_quiet (app : App σ) (rx : RxBuffer C σ) (record : Record) :
    Quiet { rx with records := rx.records ++ [record], target := [] } (rx.finish app record) := by
  have quiet := perform_quiet app
    { rx with
      mode := .none
      app := (app.onDone rx.app true rx.target).1
      records := rx.records ++ [record]
      target := [] } (app.onDone rx.app true rx.target).2
  exact ⟨quiet.flat, quiet.queue, quiet.received, quiet.dropped, quiet.refused⟩

theorem offer_quiet (app : App σ) (rx : RxBuffer C σ) (bytes : List UInt8) :
    Quiet { rx with records := rx.records ++ [.chunk (bytes.take (rx.offer app bytes).2)] }
      (rx.offer app bytes).1 := by
  have quiet := perform_quiet app
    { rx with
      app := (app.onData rx.app bytes).1
      records := rx.records ++ [.chunk (bytes.take (app.onData rx.app bytes).2.1)] }
    (app.onData rx.app bytes).2.2
  exact ⟨quiet.flat, quiet.queue, quiet.received, quiet.dropped, quiet.refused⟩

theorem offer_flat (app : App σ) (rx : RxBuffer C σ) (bytes : List UInt8)
    (idle : rx.target = []) :
    (rx.offer app bytes).1.flat = rx.flat ++ bytes.take (rx.offer app bytes).2 := by
  rw [(offer_quiet app rx bytes).flat]
  simp [RxBuffer.flat, Record.raw, idle]

theorem offer_target (rx : RxBuffer C σ) (bytes : List UInt8) (idle : rx.target = []) :
    (rx.offer app bytes).1.target = [] :=
  perform_target _ _ idle

structure Handled (api : BoundedQueue UInt8 C) (rx : RxBuffer C σ) (data : List UInt8)
    (result : RxBuffer C σ × Nat) : Prop where
  inside : result.2 ≤ data.length
  stream : result.1.flat ++ api.contents result.1.queue ++ data.drop result.2 =
    rx.flat ++ api.contents rx.queue ++ data
  received : result.1.received = rx.received
  dropped : result.1.dropped = rx.dropped
  refused : result.1.refused = rx.refused

theorem Handled.nothing (rx : RxBuffer C σ) (data : List UInt8) : Handled api rx data (rx, 0) :=
  ⟨Nat.zero_le _, rfl, rfl, rfl, rfl⟩

theorem readLine_some (terminator last : UInt8) (bytes : List UInt8)
    (found : (readLine terminator bytes).2 = some last) :
    ∃ rest, bytes = (readLine terminator bytes).1 ++ last :: rest := by
  induction bytes with
  | nil => simp [readLine] at found
  | cons c rest ih =>
    unfold readLine at found ⊢
    split at found
    next ends =>
      obtain rfl := Option.some.inj found
      exact ⟨rest, by simp [ends]⟩
    next goes =>
      obtain ⟨later, same⟩ := ih found
      refine ⟨later, ?_⟩
      simp only [goes, if_false, Bool.false_eq_true, List.cons_append]
      rw [← same]

theorem readLine_none (terminator : UInt8) (bytes : List UInt8)
    (missing : (readLine terminator bytes).2 = none) : (readLine terminator bytes).1 = bytes := by
  induction bytes with
  | nil => rfl
  | cons c rest ih =>
    unfold readLine at missing ⊢
    split at missing
    next => simp at missing
    next goes =>
      simp only [goes, if_false, Bool.false_eq_true]
      rw [ih missing]

theorem handleFree_handled (rx : RxBuffer C σ) (data : List UInt8) (idle : rx.target = []) :
    Handled api rx data (rx.handleFree api app data) := by
  unfold handleFree
  split
  next => exact .nothing rx data
  next =>
    simp only []
    have first : ∀ result : RxBuffer C σ × Nat,
        result = (if (api.contents rx.queue).isEmpty then (rx, 0)
          else ({ (rx.offer app (api.contents rx.queue)).1 with
              queue := api.remove (rx.offer app (api.contents rx.queue)).1.queue
                (rx.offer app (api.contents rx.queue)).2 },
            (rx.offer app (api.contents rx.queue)).2)) →
        result.1.target = [] ∧
          result.1.flat ++ api.contents result.1.queue = rx.flat ++ api.contents rx.queue ∧
          (result.2 = (api.contents rx.queue).length → api.contents result.1.queue = []) ∧
          result.1.received = rx.received ∧ result.1.dropped = rx.dropped ∧
          result.1.refused = rx.refused := by
      intro result same
      split at same
      next nothing =>
        subst same
        exact ⟨idle, rfl, fun _ => List.isEmpty_iff.1 nothing, rfl, rfl, rfl⟩
      next =>
        subst same
        have quiet := offer_quiet app rx (api.contents rx.queue)
        have flat := offer_flat app rx (api.contents rx.queue) idle
        have queue : (rx.offer app (api.contents rx.queue)).1.queue = rx.queue := quiet.queue
        refine ⟨offer_target rx _ idle, ?_, ?_, quiet.received, quiet.dropped, quiet.refused⟩
        · change (rx.offer app (api.contents rx.queue)).1.flat ++ _ = _
          simp only [flat, queue, api.contents_remove, List.append_assoc, List.take_append_drop]
        · intro all
          have used : (rx.offer app (api.contents rx.queue)).2 =
            (api.contents rx.queue).length := all
          simp only [queue, api.contents_remove, used, List.drop_length]
    obtain ⟨target, stream, drained, received, dropped, refused⟩ := first _ rfl
    generalize (if (api.contents rx.queue).isEmpty then (rx, 0) else _) = result at *
    split
    next whole =>
      simp only [Bool.and_eq_true, beq_iff_eq] at whole
      have quiet := offer_quiet app result.1 data
      have flat := offer_flat app result.1 data target
      have nothing := drained whole.1
      have queue : (result.1.offer app data).1.queue = result.1.queue := quiet.queue
      refine ⟨app.onData_le _ _, ?_, quiet.received.trans received, quiet.dropped.trans dropped,
        quiet.refused.trans refused⟩
      rw [nothing, List.append_nil] at stream
      rw [flat, queue, nothing, List.append_nil, List.append_assoc, List.take_append_drop, stream]
    next => exact ⟨Nat.zero_le _, by rw [List.drop_zero, stream], received, dropped, refused⟩

theorem freshBytes_length_le (api : BoundedQueue UInt8 C) (queue : C) (size : Nat)
    (data : List UInt8) :
    (freshBytes api queue size data).length ≤ data.length := by
  unfold freshBytes
  split
  next => exact List.length_take_le' ..
  next => exact Nat.zero_le _

theorem contents_freshBytes (api : BoundedQueue UInt8 C) (queue : C) (size : Nat)
    (data : List UInt8) :
    freshBytes api queue size data ++
        (api.contents queue ++ data.drop (freshBytes api queue size data).length) =
      api.contents queue ++ data := by
  unfold freshBytes
  split
  next drained =>
    rw [(api.empty_iff queue).1 drained, List.nil_append, List.nil_append]
    exact List.prefix_iff_eq_append.1 (List.take_prefix size data)
  next => rfl

theorem finish_flat (rx : RxBuffer C σ) (record : Record) (whole : record.raw = rx.target) :
    (rx.finish app record).flat = rx.flat := by
  rw [(finish_quiet app rx record).flat]
  simp [RxBuffer.flat, whole]

theorem handleReadBytes_handled (rx : RxBuffer C σ) (data : List UInt8) :
    Handled api rx data (rx.handleReadBytes api app data) := by
  have old := api.peek_append_remove rx.queue rx.rxSize
  have inside := freshBytes_length_le api (api.remove rx.queue rx.rxSize)
    (rx.rxSize - (api.peek rx.queue rx.rxSize).length) data
  have new := contents_freshBytes api (api.remove rx.queue rx.rxSize)
    (rx.rxSize - (api.peek rx.queue rx.rxSize).length) data
  simp only [handleReadBytes]
  generalize freshBytes api _ _ data = fresh at inside new ⊢
  have stream : (rx.records.map Record.raw).flatten ++
        (rx.target ++ api.peek rx.queue rx.rxSize ++ fresh) ++
        api.contents (api.remove rx.queue rx.rxSize) ++ data.drop fresh.length =
      rx.flat ++ api.contents rx.queue ++ data := by
    rw [← old]
    simp only [RxBuffer.flat, List.append_assoc, new]
  split
  next =>
    have quiet := finish_quiet app
      { rx with
        queue := api.remove rx.queue rx.rxSize
        target := rx.target ++ api.peek rx.queue rx.rxSize ++ fresh
        rxSize := rx.rxSize - (api.peek rx.queue rx.rxSize).length - fresh.length }
      (.block rx.wanted (rx.target ++ api.peek rx.queue rx.rxSize ++ fresh))
    refine ⟨inside, ?_, quiet.received, quiet.dropped, quiet.refused⟩
    rw [finish_flat _ _ rfl, quiet.queue]
    exact stream
  next => exact ⟨inside, stream, rfl, rfl, rfl⟩

theorem readLine_drop (terminator last : UInt8) (bytes : List UInt8)
    (found : (readLine terminator bytes).2 = some last) :
    (readLine terminator bytes).1 ++ last ::
      bytes.drop ((readLine terminator bytes).1.length + 1) = bytes := by
  obtain ⟨rest, same⟩ := readLine_some _ _ _ found
  generalize (readLine terminator bytes).1 = line at same ⊢
  subst same
  simp

-- A line that ends within `bytes` adds them to the stream up to its last byte.
theorem finish_line (app : App σ) (rx : RxBuffer C σ) (last : UInt8) (bytes : List UInt8)
    (found : (readLine rx.rxTerminator bytes).2 = some last) :
    ({ rx with target := rx.target ++ (readLine rx.rxTerminator bytes).1 }.finish app
        (.line rx.rxTerminator (rx.target ++ (readLine rx.rxTerminator bytes).1) last)).flat ++
      bytes.drop ((readLine rx.rxTerminator bytes).1.length + 1) = rx.flat ++ bytes := by
  rw [(finish_quiet app _ _).flat]
  simp only [RxBuffer.flat, Record.raw, List.map_append, List.map_cons, List.map_nil,
    List.flatten_append, List.flatten_cons, List.flatten_nil, List.append_nil,
    List.append_assoc, List.cons_append, List.nil_append]
  rw [readLine_drop _ _ _ found]

theorem handleString_handled (rx : RxBuffer C σ) (data : List UInt8) :
    Handled api rx data (rx.handleString api app data) := by
  simp only [handleString]
  split
  next last found =>
    have line := finish_line app
      { rx with
        queue := api.remove rx.queue
          ((readLine rx.rxTerminator (api.contents rx.queue)).1.length + 1) } last _ found
    have quiet := finish_quiet app
      { rx with
        queue := api.remove rx.queue
          ((readLine rx.rxTerminator (api.contents rx.queue)).1.length + 1)
        target := rx.target ++ (readLine rx.rxTerminator (api.contents rx.queue)).1 }
      (.line rx.rxTerminator
        (rx.target ++ (readLine rx.rxTerminator (api.contents rx.queue)).1) last)
    refine ⟨Nat.zero_le _, ?_, quiet.received, quiet.dropped, quiet.refused⟩
    rw [quiet.queue, List.drop_zero, api.contents_remove, line]
    rfl
  next missing =>
    have all := readLine_none _ _ missing
    have drained : api.contents (api.remove rx.queue
        (readLine rx.rxTerminator (api.contents rx.queue)).1.length) = [] := by
      rw [api.contents_remove, all, List.drop_length]
    split
    next last found =>
      have line := finish_line app
        { rx with
          queue := api.remove rx.queue
            (readLine rx.rxTerminator (api.contents rx.queue)).1.length
          target := rx.target ++ (readLine rx.rxTerminator (api.contents rx.queue)).1 }
        last _ found
      have quiet := finish_quiet app
        { rx with
          queue := api.remove rx.queue
            (readLine rx.rxTerminator (api.contents rx.queue)).1.length
          target := rx.target ++ (readLine rx.rxTerminator (api.contents rx.queue)).1 ++
            (readLine rx.rxTerminator data).1 }
        (.line rx.rxTerminator (rx.target ++
          (readLine rx.rxTerminator (api.contents rx.queue)).1 ++
            (readLine rx.rxTerminator data).1) last)
      have inside := congrArg List.length (readLine_drop _ _ _ found)
      refine ⟨?_, ?_, quiet.received, quiet.dropped, quiet.refused⟩
      · simp only [List.length_append, List.length_cons] at inside
        simp only []
        omega
      · rw [quiet.queue, drained, List.append_nil, line]
        simp only [RxBuffer.flat, all, List.append_assoc]
    next more =>
      have new := readLine_none _ _ more
      refine ⟨by simp [new], ?_, rfl, rfl, rfl⟩
      simp [RxBuffer.flat, new, all]

end RxBuffer

end EspDrone.AsyncTcp

import EspDrone.AsyncTcp.Reads

set_option autoImplicit false

namespace EspDrone.AsyncTcp

inductive Read where
  | bytes (length : Nat)
  | line (terminator : UInt8)
  deriving DecidableEq, Repr

def Read.request : Read → Request
  | .bytes length => .readBytes length
  | .line terminator => .readStringUntil terminator

def Read.Takes : Read → Prop
  | .bytes length => 0 < length
  | .line _ => True

def askNext : List Read → List Read × List Request
  | [] => ([], [])
  | read :: rest => (rest, [read.request])

def script : App (List Read) where
  onData reads _ := (reads, 0, [])
  onDone reads ok _ := if ok then askNext reads else (reads, [])
  onData_le _ _ := Nat.zero_le _

def parse : List Read → List UInt8 → List Record
  | [], _ => []
  | .bytes length :: rest, stream =>
      if length ≤ stream.length then
        .block length (stream.take length) :: parse rest (stream.drop length)
      else []
  | .line terminator :: rest, stream =>
      match RxBuffer.readLine terminator stream with
      | (line, some last) =>
          .line terminator line last :: parse rest (stream.drop (line.length + 1))
      | (_, none) => []

namespace RxBuffer

variable {C : Type} {api : BoundedQueue UInt8 C}

def started (api : BoundedQueue UInt8 C) (first : Read) (rest : List Read) :
    RxBuffer C (List Read) :=
  request script (initial api rest) first.request

-- What the read under way and those after it make of the stream that comes.
def resume (rx : RxBuffer C (List Read)) (stream : List UInt8) : List Record :=
  match rx.mode with
  | .readBytes =>
      if rx.rxSize ≤ stream.length then
        .block rx.wanted (rx.target ++ stream.take rx.rxSize) ::
          parse rx.app (stream.drop rx.rxSize)
      else []
  | .terminatorString =>
      match readLine rx.rxTerminator stream with
      | (line, some last) =>
          .line rx.rxTerminator (rx.target ++ line) last ::
            parse rx.app (stream.drop (line.length + 1))
      | (_, none) => []
  | _ => []

structure Scripted (rx : RxBuffer C (List Read)) : Prop where
  client : rx.client = true
  connected : rx.connected = true
  takes : ∀ read ∈ rx.app, read.Takes
  asked : rx.mode = .none ∨ rx.mode = .readBytes ∧ 0 < rx.rxSize ∨ rx.mode = .terminatorString

theorem readLine_append (terminator : UInt8) (early late : List UInt8) :
    readLine terminator (early ++ late) =
      match (readLine terminator early).2 with
      | some last => ((readLine terminator early).1, some last)
      | none => (early ++ (readLine terminator late).1, (readLine terminator late).2) := by
  induction early with
  | nil => rfl
  | cons c rest ih =>
    by_cases ends : (c == terminator || c == 0) = true
    · simp [readLine, ends]
    · simp only [List.cons_append, readLine, ends, if_false, ih, Bool.false_eq_true]
      cases (readLine terminator rest).2 <;> rfl

theorem request_resume (rx : RxBuffer C (List Read)) (read : Read) (takes : read.Takes)
    (rest : ∀ read ∈ rx.app, read.Takes) (client : rx.client = true)
    (connected : rx.connected = true) (idle : rx.target = []) :
    let after := rx.request script read.request
    Scripted after ∧ after.queue = rx.queue ∧ after.records = rx.records ∧
      ∀ stream, after.resume stream = parse (read :: rx.app) stream := by
  have given : rx.giveUp = rx := by simp [giveUp, idle]
  cases read with
  | bytes length =>
    have asked : rx.request script (Read.bytes length).request =
        { rx with mode := .readBytes, rxSize := length, wanted := length } := by
      simp [Read.request, RxBuffer.request, client, given]
    rw [asked]
    exact ⟨⟨client, connected, rest, .inr (.inl ⟨rfl, takes⟩)⟩, rfl, rfl, fun stream => by
      simp [resume, parse, idle]⟩
  | line terminator =>
    have asked : rx.request script (Read.line terminator).request =
        { rx with mode := .terminatorString, rxSize := 0, rxTerminator := terminator } := by
      simp [Read.request, RxBuffer.request, client, given]
    rw [asked]
    exact ⟨⟨client, connected, rest, .inr (.inr rfl)⟩, rfl, rfl, fun stream => by
      simp [resume, parse, idle]⟩

theorem finish_resume (rx : RxBuffer C (List Read)) (record : Record)
    (client : rx.client = true) (connected : rx.connected = true)
    (takes : ∀ read ∈ rx.app, read.Takes) :
    let after := rx.finish script record
    Scripted after ∧ after.queue = rx.queue ∧ after.records = rx.records ++ [record] ∧
      ∀ stream, after.resume stream = parse rx.app stream := by
  simp only [finish, script, if_true]
  cases reads : rx.app with
  | nil =>
    refine ⟨⟨client, connected, by simp [askNext, perform], .inl rfl⟩,
      rfl, rfl, fun stream => ?_⟩
    simp [askNext, perform, resume, parse]
  | cons read rest =>
    rw [reads] at takes
    exact request_resume
      { rx with mode := .none, app := rest, records := rx.records ++ [record], target := [] } read
      (takes read (List.mem_cons_self ..)) (fun other member => takes other (.tail _ member))
      client connected rfl

structure Resumed (api : BoundedQueue UInt8 C) (rx : RxBuffer C (List Read)) (data : List UInt8)
    (after : RxBuffer C (List Read)) (left : List UInt8) : Prop where
  scripted : Scripted after
  drained : api.contents after.queue = []
  received : after.received = rx.received
  same : ∀ later, after.records ++ after.resume (left ++ later) =
    rx.records ++ rx.resume (data ++ later)

theorem Resumed.trans {rx middle after : RxBuffer C (List Read)} {data rest left : List UInt8}
    (early : Resumed api rx data middle rest) (late : Resumed api middle rest after left) :
    Resumed api rx data after left :=
  ⟨late.scripted, late.drained, late.received.trans early.received, fun later =>
    (late.same later).trans (early.same later)⟩

theorem handleReadBytes_resumed (rx : RxBuffer C (List Read)) (data : List UInt8)
    (scripted : Scripted rx) (drained : api.contents rx.queue = []) (mode : rx.mode = .readBytes)
    (some' : 0 < rx.rxSize) :
    let next := rx.handleReadBytes api script data
    Resumed api rx data next.1 (data.drop next.2) ∧ (data ≠ [] → next.2 ≠ 0) := by
  have nothing : api.peek rx.queue rx.rxSize = [] := by simp [BoundedQueue.peek, drained]
  have empty : api.contents (api.remove rx.queue rx.rxSize) = [] := by simp [drained]
  have fresh : freshBytes api (api.remove rx.queue rx.rxSize) rx.rxSize data =
      data.take rx.rxSize := by simp [freshBytes, drained]
  simp only [handleReadBytes, nothing, List.length_nil, Nat.sub_zero, fresh, List.append_nil]
  by_cases whole : rx.rxSize ≤ data.length
  · have taken : (data.take rx.rxSize).length = rx.rxSize := List.length_take_of_le whole
    simp only [taken, Nat.sub_self, if_true]
    obtain ⟨scripted', queue, records, later⟩ := finish_resume
      { rx with
        queue := api.remove rx.queue rx.rxSize
        target := rx.target ++ data.take rx.rxSize
        rxSize := 0 } (.block rx.wanted (rx.target ++ data.take rx.rxSize))
      scripted.client scripted.connected scripted.takes
    refine ⟨⟨scripted', queue ▸ empty, (finish_quiet script _ _).received, fun future => ?_⟩,
      fun _ => Nat.ne_of_gt some'⟩
    have more : rx.rxSize ≤ (data ++ future).length := by simp only [List.length_append]; omega
    rw [later, records]
    simp only [resume, mode, more, if_true, List.append_assoc, List.singleton_append,
      List.take_append_of_le_length whole, List.drop_append_of_le_length whole]
  · have part : data.length < rx.rxSize := Nat.lt_of_not_le whole
    have all : data.take rx.rxSize = data := List.take_of_length_le (Nat.le_of_lt part)
    have unfinished : rx.rxSize - data.length ≠ 0 := by omega
    simp only [all, unfinished, if_false]
    refine ⟨⟨⟨scripted.client, scripted.connected, scripted.takes,
      .inr (.inl ⟨mode, Nat.pos_of_ne_zero unfinished⟩)⟩, empty, rfl, fun future => ?_⟩, ?_⟩
    · simp only [resume, mode, List.drop_length, List.nil_append, List.length_append,
        Nat.sub_le_iff_le_add', List.take_append, List.drop_append, all, List.append_assoc,
        List.drop_of_length_le (Nat.le_of_lt part)]
    · simp

theorem handleString_resumed (rx : RxBuffer C (List Read)) (data : List UInt8)
    (scripted : Scripted rx) (drained : api.contents rx.queue = [])
    (mode : rx.mode = .terminatorString) :
    let next := rx.handleString api script data
    Resumed api rx data next.1 (data.drop next.2) ∧ (data ≠ [] → next.2 ≠ 0) := by
  have empty : api.contents (api.remove rx.queue 0) = [] := by simp [drained]
  simp only [handleString, drained, readLine, List.length_nil, List.append_nil]
  cases found : (readLine rx.rxTerminator data).2 with
  | some last =>
    obtain ⟨scripted', queue, records, later⟩ := finish_resume
      { rx with
        target := rx.target ++ (readLine rx.rxTerminator data).1
        queue := api.remove rx.queue 0 }
      (.line rx.rxTerminator (rx.target ++ (readLine rx.rxTerminator data).1) last)
      scripted.client scripted.connected scripted.takes
    refine ⟨⟨scripted', queue ▸ empty, (finish_quiet script _ _).received, fun future => ?_⟩,
      fun _ => Nat.succ_ne_zero _⟩
    have whole := congrArg List.length (readLine_drop _ _ _ found)
    simp only [List.length_append, List.length_cons] at whole
    rw [later, records]
    simp only [resume, mode, readLine_append, found, List.append_assoc, List.singleton_append]
    rw [List.drop_append_of_le_length (by omega)]
  | none =>
    have all := readLine_none _ _ found
    refine ⟨⟨⟨scripted.client, scripted.connected, scripted.takes, .inr (.inr mode)⟩, empty,
      rfl, fun future => ?_⟩, ?_⟩
    · simp only [resume, mode, readLine_append, found, all, List.drop_length, List.nil_append]
      obtain ⟨line, last⟩ := readLine rx.rxTerminator future
      cases last with
      | none => rfl
      | some last =>
        have drop : (data ++ future).drop ((data ++ line).length + 1) =
            future.drop (line.length + 1) := by
          rw [List.length_append, Nat.add_assoc, List.drop_append]
          simp
        simp only [drop, List.append_assoc]
    · simp [all]

theorem handleRxBuffer_resumed (rx : RxBuffer C (List Read)) (data : List UInt8)
    (scripted : Scripted rx) (drained : api.contents rx.queue = []) :
    let next := rx.handleRxBuffer api script data
    Resumed api rx data next.1 (data.drop next.2) ∧
      (rx.mode ≠ .none → data ≠ [] → next.2 ≠ 0) := by
  simp only [handleRxBuffer, scripted.client, scripted.connected, Bool.not_true, Bool.or_self,
    if_false, Bool.false_eq_true]
  rcases scripted.asked with mode | ⟨mode, some'⟩ | mode
  · simp only [mode, List.drop_zero]
    exact ⟨⟨scripted, drained, rfl, fun _ => rfl⟩, fun busy => absurd rfl busy⟩
  · have next := handleReadBytes_resumed rx data scripted drained mode some'
    simp only [mode]
    exact ⟨next.1, fun _ => next.2⟩
  · have next := handleString_resumed rx data scripted drained mode
    simp only [mode]
    exact ⟨next.1, fun _ => next.2⟩

theorem handleLoop_resumed (turns : Nat) (rx : RxBuffer C (List Read)) (data : List UInt8)
    (handled : Nat) (enough : data.length ≤ turns) (scripted : Scripted rx)
    (drained : api.contents rx.queue = []) (some' : data ≠ [] → rx.mode ≠ .none → handled ≠ 0) :
    let after := rx.handleLoop api script turns data handled
    Resumed api rx data after.1 after.2 ∧ (after.1.mode ≠ .none → after.2 = []) := by
  induction turns generalizing rx data handled with
  | zero =>
    have nothing := List.eq_nil_of_length_eq_zero (Nat.le_zero.1 enough)
    exact ⟨⟨scripted, drained, rfl, fun _ => rfl⟩, fun _ => nothing⟩
  | succ turns ih =>
    simp only [handleLoop]
    split
    next goes =>
      obtain ⟨busy, -, more⟩ := goes
      obtain ⟨next, taken⟩ := handleRxBuffer_resumed rx data scripted drained
      have used := taken busy more
      have later := ih (rx.handleRxBuffer api script data).1
        (data.drop (rx.handleRxBuffer api script data).2)
        (rx.handleRxBuffer api script data).2
        (by simp only [List.length_drop]; omega) next.scripted next.drained fun _ _ => used
      exact ⟨next.trans later.1, later.2⟩
    next stops =>
      refine ⟨⟨scripted, drained, rfl, fun _ => rfl⟩, fun busy => ?_⟩
      by_contra more
      exact stops ⟨busy, some' more busy, more⟩

-- Between two segments the reads have taken everything, unless they are all done.
structure Synced (api : BoundedQueue UInt8 C) (reads : List Read) (rx : RxBuffer C (List Read)) :
    Prop where
  scripted : Scripted rx
  drained : rx.mode ≠ .none → api.contents rx.queue = []
  same : ∀ later, rx.records ++ rx.resume later = parse reads (rx.received ++ later)

theorem handleDirect_resumed (rx : RxBuffer C (List Read)) (data : List UInt8)
    (scripted : Scripted rx) (drained : api.contents rx.queue = []) (busy : rx.mode ≠ .none) :
    let after := rx.handleDirect api script data
    Resumed api rx data after.1 after.2 ∧ (after.1.mode ≠ .none → after.2 = []) := by
  obtain ⟨first, taken⟩ := handleRxBuffer_resumed rx data scripted drained
  have loop := handleLoop_resumed data.length (rx.handleRxBuffer api script data).1
    (data.drop (rx.handleRxBuffer api script data).2) (rx.handleRxBuffer api script data).2
    (by simp) first.scripted first.drained fun more _ => taken busy fun nothing => by
      simp [nothing] at more
  simp only [handleDirect, busy, if_false, (api.empty_iff _).2 first.drained, if_true]
  exact ⟨first.trans loop.1, loop.2⟩

theorem resume_none (rx : RxBuffer C (List Read)) (done : rx.mode = .none)
    (stream : List UInt8) : rx.resume stream = [] := by
  simp [resume, done]

-- What is left when the reads are done goes to the ring buffer and no further.
theorem store_synced (reads : List Read) (heap : Bool) (rx : RxBuffer C (List Read))
    (rest : List UInt8) (scripted : Scripted rx)
    (drained : rx.mode ≠ .none → api.contents rx.queue = [] ∧ rest = [])
    (same : ∀ later, rx.records ++ rx.resume later = parse reads (rx.received ++ later)) :
    let after := cleanUp api heap ((rx.keep api heap rest).handleKept api script)
    Synced api reads after ∧ after.received = rx.received := by
  obtain ⟨queue, room, contents, -, kept⟩ := keep_contents api heap rx rest
  have empty : rx.mode ≠ .none → api.contents queue = [] := by
    intro busy
    obtain ⟨nothing, none'⟩ := drained busy
    simp [contents, nothing, none']
  have idle : (rx.keep api heap rest).handleKept api script = rx.keep api heap rest := by
    simp only [handleKept, kept]
    by_cases done : rx.mode = .none
    · simp [done]
    · simp [empty done]
  obtain ⟨clean, cleaned, whole⟩ := cleanUp_contents api heap (rx.keep api heap rest)
  rw [idle, whole, kept]
  simp only [kept] at cleaned
  exact ⟨⟨⟨scripted.client, scripted.connected, scripted.takes, scripted.asked⟩,
    fun busy => cleaned.trans (empty busy), same⟩, rfl⟩

theorem rxData_synced (reads : List Read) (heap : Bool) (rx : RxBuffer C (List Read))
    (data : List UInt8) (synced : Synced api reads rx) :
    Synced api reads (rx.rxData api script heap data) ∧
      (rx.rxData api script heap data).received = rx.received ++ data := by
  have scripted : Scripted { rx with received := rx.received ++ data } :=
    ⟨synced.scripted.client, synced.scripted.connected, synced.scripted.takes,
      synced.scripted.asked⟩
  have same : ∀ later, rx.records ++ rx.resume (data ++ later) =
      parse reads (rx.received ++ data ++ later) := fun later => by
    rw [synced.same, List.append_assoc]
  rw [rxData_up heap rx data ⟨synced.scripted.client, synced.scripted.connected⟩]
  simp only []
  by_cases done : rx.mode = .none
  · have idle : handleDirect api script { rx with received := rx.received ++ data } data =
        ({ rx with received := rx.received ++ data }, data) := if_pos done
    rw [idle]
    refine store_synced reads heap { rx with received := rx.received ++ data } data scripted
      (fun busy => absurd done busy) fun later => ?_
    have whole := same later
    rw [resume_none rx done] at whole
    rw [resume_none { rx with received := rx.received ++ data } done]
    exact whole
  · obtain ⟨direct, drained⟩ := handleDirect_resumed { rx with received := rx.received ++ data }
      data scripted (synced.drained done) done
    generalize handleDirect api script { rx with received := rx.received ++ data } data = after
      at direct drained ⊢
    have stored := store_synced reads heap after.1 after.2 direct.scripted
      (fun busy => ⟨direct.drained, drained busy⟩) fun later => ?_
    · exact ⟨stored.1, stored.2.trans direct.received⟩
    · have step := direct.same later
      rw [direct.received]
      refine Eq.trans ?_ (step.trans (same later))
      by_cases ended : after.1.mode = .none
      · rw [resume_none _ ended, resume_none _ ended]
      · rw [drained ended, List.nil_append]

theorem started_synced (api : BoundedQueue UInt8 C) (first : Read) (rest : List Read)
    (takes : ∀ read ∈ first :: rest, read.Takes) :
    Synced api (first :: rest) (started api first rest) ∧
      (started api first rest).received = [] := by
  obtain ⟨scripted, queue, records, later⟩ := request_resume (initial api rest) first
    (takes first (List.mem_cons_self ..)) (fun other member => takes other (.tail _ member))
    rfl rfl rfl
  have received : (started api first rest).received = [] :=
    (request_quiet script (initial api rest) first.request).received
  refine ⟨⟨scripted, fun _ => ?_, fun future => ?_⟩, received⟩
  · exact (congrArg api.contents queue).trans (api.contents_new 100)
  · rw [received]
    exact (congrArg₂ (· ++ ·) records (later future)).trans rfl

theorem run_synced (reads : List Read) (rx : RxBuffer C (List Read))
    (segments : List (Bool × List UInt8)) (synced : Synced api reads rx) :
    let after := rx.run api script (segments.map fun segment => .data segment.1 segment.2)
    Synced api reads after ∧
      after.received = rx.received ++ (segments.map Prod.snd).flatten := by
  induction segments generalizing rx with
  | nil => exact ⟨synced, by simp [run]⟩
  | cons segment later ih =>
    obtain ⟨next, received⟩ := rxData_synced reads segment.1 rx segment.2 synced
    obtain ⟨after, all⟩ := ih _ next
    refine ⟨after, all.trans ?_⟩
    rw [received, List.map_cons, List.flatten_cons, List.append_assoc]

/--
A sketch that asks for its reads one after the other gets the same blocks and
lines for every way in which TCP cuts the stream into segments: those that
the reads take from the whole stream.
-/
theorem records_segment_independent (api : BoundedQueue UInt8 C) (first : Read)
    (rest : List Read) (segments : List (Bool × List UInt8))
    (takes : ∀ read ∈ first :: rest, read.Takes) :
    ((started api first rest).run api script
        (segments.map fun segment => .data segment.1 segment.2)).records =
      parse (first :: rest) (segments.map Prod.snd).flatten := by
  obtain ⟨start, nothing⟩ := started_synced api first rest takes
  obtain ⟨synced, received⟩ := run_synced (first :: rest) _ segments start
  have same := synced.same []
  rw [received, nothing, List.nil_append, List.append_nil] at same
  rw [← same]
  generalize RxBuffer.run api script _ _ = after at synced ⊢
  have unfinished : after.resume [] = [] := by
    rcases synced.scripted.asked with mode | ⟨mode, some'⟩ | mode
    · exact resume_none _ mode _
    · simp [resume, mode, Nat.ne_of_gt some']
    · simp [resume, mode, readLine]
  rw [unfinished, List.append_nil]

theorem records_segment_independent_two :
    ((started (BoundedQueue.listed UInt8) (.bytes 2) [.line 10]).run (BoundedQueue.listed UInt8)
        script ([(true, [1]), (true, [2, 65]), (false, [66, 10])].map fun segment =>
          .data segment.1 segment.2)).records =
      parse [.bytes 2, .line 10] ([(true, [1]), (true, [2, 65]), (false, [66, 10])].map
        Prod.snd).flatten :=
  records_segment_independent (BoundedQueue.listed UInt8) (.bytes 2) [.line 10]
    [(true, [1]), (true, [2, 65]), (false, [66, 10])] (by simp [Read.Takes])

example : parse [.bytes 2, .line 10] [1, 2, 65, 66, 10] =
    [.block 2 [1, 2], .line 10 [65, 66] 10] := by decide

end RxBuffer

end EspDrone.AsyncTcp

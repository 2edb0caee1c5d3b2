import EspDrone.AsyncTcp.Lifecycle
import Mathlib.Data.List.Induction

set_option autoImplicit false

namespace EspDrone.AsyncTcp

namespace Client

structure Fresh (client : Client) : Prop where
  errored : client.tracker.errored = none
  closeError : client.tracker.closeError ≠ .abrt

-- What a client that held a control block has come to; `start` are the aborts before.
inductive Marked (start : List Bool) (client : Client) : Prop where
  | held (block : client.pcb.isSome = true) (fresh : client.Fresh)
      (aborted : client.aborted = start)
  | closed (block : client.pcb = none)
      (calm : client.tracker.errored = none → client.tracker.closeError ≠ .abrt)
      (aborted : client.aborted = start)
  | silent (block : client.pcb = none) (errored : client.tracker.errored = none)
      (closeError : client.tracker.closeError = .abrt)
      (aborted : client.aborted = start ++ [false])
  | told (block : client.pcb = none) (errored : client.tracker.errored.isSome = true)
      (aborted : client.aborted = start ++ [true])

structure Alike (before after : Client) : Prop where
  pcb : after.pcb = before.pcb
  errored : after.tracker.errored = before.tracker.errored
  closeError : after.tracker.closeError = before.tracker.closeError
  aborted : after.aborted = before.aborted

theorem Fresh.alike {before after : Client} (fresh : Fresh before) (alike : Alike before after) :
    Fresh after :=
  ⟨alike.errored.trans fresh.errored, by rw [alike.closeError]; exact fresh.closeError⟩

theorem Marked.alike {start : List Bool} {before after : Client} (marked : Marked start before)
    (alike : Alike before after) : Marked start after := by
  cases marked with
  | held block fresh aborted =>
    exact .held (by rw [alike.pcb]; exact block) (fresh.alike alike)
      (alike.aborted.trans aborted)
  | closed block calm aborted =>
    refine .closed (alike.pcb.trans block) ?_ (alike.aborted.trans aborted)
    rw [alike.errored, alike.closeError]
    exact calm
  | silent block errored closeError aborted =>
    exact .silent (alike.pcb.trans block) (alike.errored.trans errored)
      (alike.closeError.trans closeError) (alike.aborted.trans aborted)
  | told block errored aborted =>
    exact .told (alike.pcb.trans block) (by rw [alike.errored]; exact errored)
      (alike.aborted.trans aborted)

theorem discard_alike (client : Client) : Alike client client.discard := by
  unfold discard
  split <;> exact ⟨rfl, rfl, rfl, rfl⟩

theorem setCloseError_closeError (tracker : ACErrorTracker) (err : Err)
    (fresh : tracker.errored = none) : (tracker.setCloseError err).closeError = err := by
  simp [ACErrorTracker.setCloseError, fresh]

theorem abort_marked {client : Client} (block : client.pcb.isSome = true) (fresh : Fresh client)
    (reported : Bool) : Marked client.aborted (client.abort reported) := by
  obtain ⟨pcb, held⟩ := Option.isSome_iff_exists.1 block
  by_cases told : reported = true
  · have discarded := discard_alike
      { client with
        released := client.released + 1
        aborted := client.aborted ++ [reported]
        tracker := (client.tracker.setCloseError .abrt).setErrored .errorCb
        pcb := none }
    simp only [abort, held, told, if_true, sError, error] at discarded ⊢
    refine .told rfl ?_ discarded.aborted
    rw [setCloseError_errored, discarded.errored]
    exact setErrored_errored _ _
  · simp only [abort, held, told, Bool.false_eq_true, if_false]
    refine .silent rfl ?_ (setCloseError_closeError _ _ fresh.errored) (by simp)
    rw [setCloseError_errored]
    exact fresh.errored

theorem closeNow_marked {client : Client} (block : client.pcb.isSome = true)
    (fresh : Fresh client) (answer : Err) : Marked client.aborted (client.closeNow answer) := by
  obtain ⟨pcb, held⟩ := Option.isSome_iff_exists.1 block
  simp only [closeNow, held]
  split
  · refine Marked.alike ?_ (discard_alike _)
    refine .closed rfl (fun _ => ?_) rfl
    simp [setCloseError_closeError _ _ fresh.errored]
  · exact (abort_marked block fresh false).alike (discard_alike _)

theorem closeNow_none {client : Client} (gone : client.pcb = none) (answer : Err) :
    client.closeNow answer = client := by
  simp [closeNow, gone]

theorem close_none {client : Client} (gone : client.pcb = none) (now : Bool) (answer : Err) :
    Alike client (client.close now answer) := by
  unfold close
  simp only [gone, Option.isSome_none, Bool.false_eq_true, if_false]
  split
  · rw [closeNow_none gone]
    exact ⟨rfl, rfl, rfl, rfl⟩
  · exact ⟨gone.symm, rfl, rfl, rfl⟩

theorem write_tracker (client : Client) (answer : Answer) (data : List UInt8) :
    (client.write answer data).1.pcb.isSome = client.pcb.isSome ∧
      (client.write answer data).1.tracker = client.tracker ∧
      (client.write answer data).1.aborted = client.aborted := by
  have added : (client.add answer data).1.pcb.isSome = client.pcb.isSome ∧
      (client.add answer data).1.tracker = client.tracker ∧
      (client.add answer data).1.aborted = client.aborted := by
    unfold add
    split
    next => exact ⟨rfl, rfl, rfl⟩
    next pcb block =>
      split
      · exact ⟨rfl, rfl, rfl⟩
      · simp only []
        split
        · exact ⟨by rw [block]; rfl, rfl, rfl⟩
        · exact ⟨rfl, rfl, rfl⟩
  have sent (other : Client) : (other.send answer).1.pcb = other.pcb ∧
      (other.send answer).1.tracker = other.tracker ∧
      (other.send answer).1.aborted = other.aborted := by
    unfold send
    split <;> exact ⟨rfl, rfl, rfl⟩
  unfold write
  simp only []
  split
  · exact added
  · obtain ⟨pcb, tracker, aborted⟩ := sent (client.add answer data).1
    split <;>
      exact ⟨(congrArg Option.isSome pcb).trans added.1, tracker.trans added.2.1,
        aborted.trans added.2.2⟩

theorem perform_none {client : Client} (gone : client.pcb = none) (call : Call) :
    Alike client (client.perform call) := by
  cases call with
  | abort reported =>
    simp only [perform, abort, gone]
    exact ⟨rfl, rfl, rfl, rfl⟩
  | close now answer => exact close_none gone now answer
  | ackLater => exact ⟨rfl, rfl, rfl, rfl⟩
  | ack len => exact ⟨rfl, rfl, rfl, rfl⟩
  | setRxTimeout timeout => exact ⟨rfl, rfl, rfl, rfl⟩
  | setAckTimeout timeout => exact ⟨rfl, rfl, rfl, rfl⟩
  | write answer data =>
    obtain ⟨pcb, tracker, aborted⟩ := write_tracker client answer data
    rw [gone, Option.isSome_none, Option.isSome_eq_false_iff, Option.isNone_iff_eq_none] at pcb
    exact ⟨pcb.trans gone.symm, congrArg _ tracker, congrArg _ tracker, aborted⟩
  | delete answer =>
    simp only [perform, closeNow_none gone]
    exact ⟨rfl, rfl, rfl, rfl⟩

theorem perform_held {client : Client} (block : client.pcb.isSome = true) (fresh : Fresh client)
    (call : Call) : Marked client.aborted (client.perform call) := by
  have same {after : Client} (alike : Alike client after) : Marked client.aborted after :=
    Marked.alike (.held block fresh rfl) alike
  cases call with
  | abort reported => exact abort_marked block fresh reported
  | close now answer =>
    simp only [perform, close, block, if_true]
    split
    · have block' : ({ client with
          recved := client.recved + client.rxAckLen } : Client).pcb.isSome = true := block
      exact closeNow_marked block' ⟨fresh.errored, fresh.closeError⟩ answer
    · exact same ⟨rfl, rfl, rfl, rfl⟩
  | ackLater => exact same ⟨rfl, rfl, rfl, rfl⟩
  | ack len => exact same ⟨rfl, rfl, rfl, rfl⟩
  | setRxTimeout timeout => exact same ⟨rfl, rfl, rfl, rfl⟩
  | setAckTimeout timeout => exact same ⟨rfl, rfl, rfl, rfl⟩
  | write answer data =>
    obtain ⟨pcb, tracker, aborted⟩ := write_tracker client answer data
    exact .held (pcb.trans block)
      ⟨by rw [perform, tracker]; exact fresh.errored,
        by rw [perform, tracker]; exact fresh.closeError⟩ aborted
  | delete answer =>
    exact (closeNow_marked block fresh answer).alike ⟨rfl, rfl, rfl, rfl⟩

theorem perform_marked {start : List Bool} {client : Client} (marked : Marked start client)
    (call : Call) : Marked start (client.perform call) := by
  cases marked with
  | held block fresh aborted => exact aborted ▸ perform_held block fresh call
  | closed block calm aborted =>
    exact (Marked.closed block calm aborted).alike (perform_none block call)
  | silent block errored closeError aborted =>
    exact (Marked.silent block errored closeError aborted).alike (perform_none block call)
  | told block errored aborted =>
    exact (Marked.told block errored aborted).alike (perform_none block call)

theorem performAll_marked {start : List Bool} {client : Client} (marked : Marked start client)
    (calls : List Call) : Marked start (client.performAll calls) := by
  induction calls generalizing client with
  | nil => exact marked
  | cons call rest ih => exact ih (perform_marked marked call)

theorem recvPbufs_marked {start : List Bool} (state : Client × List (List Call))
    (payloads : List (List UInt8)) (marked : Marked start state.1) :
    Marked start (recvPbufs scripted state payloads).1 := by
  induction payloads generalizing state with
  | nil => exact marked
  | cons payload rest ih =>
    unfold recvPbufs
    split
    · exact marked
    · apply ih
      have opened : Marked start { state.1 with ackPcb := true } :=
        marked.alike ⟨rfl, rfl, rfl, rfl⟩
      have handled := performAll_marked opened (state.2.headD [])
      simp only []
      split
      · refine handled.alike ?_
        unfold credit
        split <;> exact ⟨rfl, rfl, rfl, rfl⟩
      · exact handled

theorem tracked_fresh {client : Client} (fresh : Fresh client) :
    Fresh { client with tracker := client.tracker.setCloseError .ok } where
  errored := (setCloseError_errored _ _).trans fresh.errored
  closeError := by
    rw [setCloseError_closeError _ _ fresh.errored]
    simp

theorem poll_marked {client : Client} (block : client.pcb.isSome = true) (fresh : Fresh client)
    (now : UInt32) (answer : Err) : Marked client.aborted (client.poll now answer) := by
  have tracked := tracked_fresh fresh
  unfold poll
  simp only []
  split
  · have block' : ({ client with
        tracker := client.tracker.setCloseError .ok
        closePcb := false } : Client).pcb.isSome = true := block
    exact closeNow_marked block' ⟨tracked.errored, tracked.closeError⟩ answer
  · split
    · exact .held block ⟨tracked.errored, tracked.closeError⟩ rfl
    · split
      · have block' : ({ client with
            tracker := client.tracker.setCloseError .ok } : Client).pcb.isSome = true := block
        exact closeNow_marked block' tracked answer
      · exact .held block tracked rfl

theorem sent_marked {client : Client} (block : client.pcb.isSome = true) (fresh : Fresh client)
    (len now : UInt32) : Marked client.aborted (client.sent len now) := by
  have tracked := tracked_fresh fresh
  unfold sent
  by_cases settled : client.txUnackedLen - len = 0
  · simp only [settled, if_true]
    exact .held block ⟨tracked.errored, tracked.closeError⟩ rfl
  · simp only [settled, if_false]
    exact .held block ⟨fresh.errored, fresh.closeError⟩ rfl

theorem recorded_marked (client : Client) (err : Err) (event : ErrorEvent) :
    Marked client.aborted ({ client with
      tracker := (client.tracker.setCloseError err).setErrored event
      pcb := none } : Client).error := by
  refine Marked.alike ?_ (discard_alike _)
  refine .closed rfl (fun errored => ?_) rfl
  have recorded := setErrored_errored (client.tracker.setCloseError err) event
  simp only at errored
  simp [errored] at recorded

-- lwIP calls back for the control block of the client, or for the one it was to connect.
def Delivered (client : Client) : Callback → Prop
  | .connected _ _ _ => client.Fresh
  | .connectedError _ => True
  | _ => client.pcb.isSome = true

def Clear (client : Client) : Prop := client.pcb.isSome = true → client.Fresh

theorem receive_marked {client : Client} (clear : Clear client) (callback : Callback)
    (delivered : client.Delivered callback) :
    Marked client.aborted (client.receive callback) := by
  cases callback with
  | connected pcb now calls =>
    have attached : Marked client.aborted (client.connectedOk pcb now) :=
      .held rfl ⟨delivered.errored, delivered.closeError⟩ rfl
    exact performAll_marked attached calls
  | connectedError err => exact recorded_marked client err .connectedCb
  | sent len now calls =>
    exact performAll_marked (sent_marked delivered (clear delivered) len now) calls
  | recv payloads now =>
    have tracked := tracked_fresh (clear delivered)
    have opened : Marked client.aborted { client with
        rxLastPacket := now
        tracker := client.tracker.setCloseError .ok } :=
      .held delivered ⟨tracked.errored, tracked.closeError⟩ rfl
    exact recvPbufs_marked (_, payloads.map Prod.snd) _ opened
  | recvFin answer => exact closeNow_marked delivered (clear delivered) answer
  | recvError err => exact recorded_marked client err .recvCb
  | poll now answer calls =>
    exact performAll_marked (poll_marked delivered (clear delivered) now answer) calls
  | error err => exact recorded_marked client err .errorCb

theorem Marked.clear {start : List Bool} {client : Client} (marked : Marked start client) :
    Clear client := by
  cases marked with
  | held block fresh aborted => exact fun _ => fresh
  | closed block calm aborted => exact fun some' => by simp [block] at some'
  | silent block errored closeError aborted => exact fun some' => by simp [block] at some'
  | told block errored aborted => exact fun some' => by simp [block] at some'

theorem performAll_none {client : Client} (gone : client.pcb = none) (calls : List Call) :
    (client.performAll calls).pcb = none := by
  induction calls generalizing client with
  | nil => exact gone
  | cons call rest ih => exact ih ((perform_none gone call).pcb.trans gone)

theorem recvPbufs_none (state : Client × List (List Call)) (payloads : List (List UInt8))
    (gone : state.1.pcb = none) : (recvPbufs scripted state payloads).1.pcb = none := by
  induction payloads generalizing state with
  | nil => exact gone
  | cons payload rest ih =>
    unfold recvPbufs
    split
    · exact gone
    · apply ih
      have opened : ({ state.1 with ackPcb := true } : Client).pcb = none := gone
      have handled := performAll_none opened (state.2.headD [])
      simp only []
      split
      · unfold credit
        split <;> exact handled
      · exact handled

theorem receive_none {client : Client} (gone : client.pcb = none) (callback : Callback)
    (other : ∀ pcb now calls, callback ≠ .connected pcb now calls) :
    (client.receive callback).pcb = none := by
  have discarded (client : Client) (gone : client.pcb = none) : client.discard.pcb = none :=
    (discard_pcb client).trans gone
  cases callback with
  | connected pcb now calls => exact absurd rfl (other pcb now calls)
  | connectedError err => exact discarded _ rfl
  | sent len now calls =>
    refine performAll_none ?_ calls
    unfold sent
    by_cases settled : client.txUnackedLen - len = 0 <;> simp only [settled, if_true, if_false] <;>
      exact gone
  | recv payloads now => exact recvPbufs_none _ _ gone
  | recvFin answer =>
    rw [receive, closeNow_none gone]
    exact gone
  | recvError err => exact discarded _ rfl
  | poll now answer calls =>
    refine performAll_none ?_ calls
    simp only [poll, closeNow, gone]
    split
    · rfl
    · split
      · rfl
      · split <;> rfl
  | error err => exact discarded _ rfl

theorem live_clear (state : Client × List Err) (event : LifeEvent) (clear : Clear state.1)
    (fresh : ∀ pcb now calls, event = .callback (.connected pcb now calls) → state.1.Fresh) :
    Clear (live state event).1 := by
  obtain ⟨client, returned⟩ := state
  simp only at clear fresh
  have called (callback : Callback)
      (fresh : ∀ pcb now calls, callback = .connected pcb now calls → client.Fresh) :
      Clear (client.receive callback) := by
    by_cases connects : ∃ pcb now calls, callback = .connected pcb now calls
    · obtain ⟨pcb, now, calls, rfl⟩ := connects
      exact (receive_marked clear (.connected pcb now calls) (fresh pcb now calls rfl)).clear
    · simp only [not_exists] at connects
      by_cases some' : client.pcb.isSome = true
      · have delivered : client.Delivered callback := by
          cases callback with
          | connected pcb now calls => exact absurd rfl (connects pcb now calls)
          | connectedError err => trivial
          | _ => exact some'
        exact (receive_marked clear callback delivered).clear
      · have gone := receive_none (by simpa using some') callback connects
        exact fun there => by simp [gone] at there
  have answered (callback : Callback)
      (fresh : ∀ pcb now calls, callback = .connected pcb now calls → client.Fresh) :
      Clear { client.receive callback with
        tracker := (client.receive callback).tracker.getCallbackCloseError.2 } := by
    intro some'
    have kept := called callback fresh some'
    have same : (client.receive callback).tracker.getCallbackCloseError.2 =
        (client.receive callback).tracker := by
      simp [ACErrorTracker.getCallbackCloseError, kept.errored, kept.closeError]
    rw [same]
    exact kept
  cases event with
  | call call =>
    by_cases some' : client.pcb.isSome = true
    · exact (perform_held some' (clear some') call).clear
    · have gone : client.pcb = none := by simpa using some'
      exact fun there => by simp [live, (perform_none gone call).pcb, gone] at there
  | callback callback =>
    have fresh' (pcb : Pcb) (now : UInt32) (calls : List Call)
        (same : callback = .connected pcb now calls) : client.Fresh :=
      fresh pcb now calls (congrArg LifeEvent.callback same)
    cases callback with
    | error err => exact called (.error err) fresh'
    | connected | connectedError | sent | recv | recvFin | recvError | poll =>
      exact answered _ fresh'

theorem run_clear (start : Client) (clear : Clear start) (events : List LifeEvent)
    (fresh : ∀ early late pcb now calls,
      events = early ++ .callback (.connected pcb now calls) :: late →
        (early.foldl live (start, [])).1.Fresh) :
    Clear (events.foldl live (start, [])).1 := by
  induction events using List.reverseRecOn with
  | nil => exact clear
  | append_singleton early event ih =>
    rw [List.foldl_append]
    apply live_clear
    · apply ih
      intro before late pcb now calls split
      exact fresh before (late ++ [event]) pcb now calls (by rw [split]; simp)
    · intro pcb now calls same
      exact fresh early [] pcb now calls (by rw [same])

/-- A callback calls tcp_abort at most once, and it returns ERR_ABRT if and only if it has called
it without the error callback; after a tcp_abort that calls the error callback it returns ERR_OK.
A client that connects again has to have a fresh tracker. -/
theorem abrt_iff_silent_abort (pcb : Option Pcb) (now : UInt32) (deletes : Bool)
    (events : List LifeEvent) (callback : Callback) (answers : ∀ err, callback ≠ .error err)
    (fresh : ∀ early late pcb' now' calls,
      events = early ++ .callback (.connected pcb' now' calls) :: late →
        (early.foldl live (initial pcb now deletes, [])).1.Fresh)
    (delivered : (events.foldl live (initial pcb now deletes, [])).1.Delivered callback) :
    let before := events.foldl live (initial pcb now deletes, [])
    let after := live before (.callback callback)
    (after.2 = before.2 ++ [.abrt] ↔ after.1.aborted = before.1.aborted ++ [false]) ∧
    (after.1.aborted = before.1.aborted ++ [true] → after.2 = before.2 ++ [.ok]) ∧
    after.1.aborted.length ≤ before.1.aborted.length + 1 := by
  intro before after
  have clear : Clear before.1 :=
    run_clear _ (fun _ => ⟨rfl, by simp [initial]⟩) events fresh
  have marked := receive_marked clear callback delivered
  have returned : after.2 = before.2 ++
      [(before.1.receive callback).tracker.getCallbackCloseError.1] := by
    cases callback with
    | error err => exact absurd rfl (answers err)
    | connected | connectedError | sent | recv | recvFin | recvError | poll => rfl
  have aborted : after.1.aborted = (before.1.receive callback).aborted := by
    cases callback with
    | error err => exact absurd rfl (answers err)
    | connected | connectedError | sent | recv | recvFin | recvError | poll => rfl
  rw [returned, aborted]
  generalize before.1.receive callback = handled at marked
  cases marked with
  | held block fresh same =>
    simp [same, ACErrorTracker.getCallbackCloseError, fresh.errored, fresh.closeError]
  | closed block calm same =>
    cases errored : handled.tracker.errored with
    | some event => simp [same, ACErrorTracker.getCallbackCloseError, errored]
    | none =>
      have calmed := calm errored
      simp [same, ACErrorTracker.getCallbackCloseError, errored, calmed]
  | silent block errored closeError same =>
    simp [same, ACErrorTracker.getCallbackCloseError, errored, closeError]
  | told block errored same =>
    simp [same, ACErrorTracker.getCallbackCloseError, errored]

-- The sketch aborts in the data callback: lwIP is not told.
theorem abrt_iff_silent_abort_data :
    let before : Client × List Err := (initial (some ⟨4, 100⟩) 0 false, [])
    let after := live before (.callback (.recv [([65], [.abort true])] 5))
    after.1.aborted = [true] ∧ after.2 = [.ok] := by
  intro before after
  have aborted : after.1.aborted = [true] := by decide
  have told := (abrt_iff_silent_abort (some ⟨4, 100⟩) 0 false [] (.recv [([65], [.abort true])] 5)
    (by simp) (by simp) rfl).2.1 aborted
  exact ⟨aborted, told⟩

end Client

end EspDrone.AsyncTcp

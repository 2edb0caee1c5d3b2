import EspDrone.UdpXmitter.Listener

set_option autoImplicit false

namespace EspDrone.UdpXmitter

-- The statements until isRunning is false, once the thread is asked to stop.
def ThreadPc.left : ThreadPc → Nat
  | .created => 9
  | .receiving => 8
  | .filtering => 7
  | .asking => 6
  | .handing => 5
  | .checking => 4
  | .closing => 3
  | .clearing => 2
  | .stopping => 1
  | .removing | .forgetting | .reporting | .ended => 0

namespace Listener

theorem threadStep_changes {listener listener' : Listener} {index : Nat} {task : Task}
    {receipt : Receipt} (safe : Safe listener) (found : listener.tasks[index]? = some task)
    (taken : listener.threadStep index task receipt = some listener') :
    listener'.ui = listener.ui ∧ listener'.created = listener.created ∧
      listener'.listenerSocketsInUse = listener.listenerSocketsInUse ∧
      listener'.rcvTask = (if task.pc = .forgetting then none else listener.rcvTask) ∧
      ∃ task', listener'.tasks = listener.tasks.set index task' ∧
        task'.stopRequest = task.stopRequest ∧
        (task.stopRequest = true → task'.pc.left ≤ task.pc.left - 1) := by
  cases pc : task.pc with
  | created => simp [threadStep, pc] at taken
  | checking =>
    simp only [threadStep, pc, Option.some.injEq] at taken
    subst taken
    exact ⟨rfl, rfl, rfl, rfl, _, rfl, rfl, fun requested => by simp [requested, ThreadPc.left]⟩
  | receiving =>
    cases receipt with
    | packet =>
      simp only [threadStep, pc, Option.some.injEq] at taken
      subst taken
      exact ⟨rfl, rfl, rfl, rfl, _, rfl, rfl, fun _ => by simp [ThreadPc.left]⟩
    | timeout =>
      simp only [threadStep, pc, Option.some.injEq] at taken
      subst taken
      exact ⟨rfl, rfl, rfl, rfl, _, rfl, rfl, fun _ => by simp [ThreadPc.left]⟩
    | failed =>
      simp only [threadStep, pc, Option.some.injEq] at taken
      subst taken
      exact ⟨rfl, rfl, rfl, rfl, _, rfl, rfl, fun _ => by simp [ThreadPc.left]⟩
    | nics answer => simp [threadStep, pc] at taken
  | filtering =>
    simp only [threadStep, pc, Option.some.injEq] at taken
    subst taken
    refine ⟨rfl, rfl, rfl, rfl, _, rfl, rfl, fun _ => ?_⟩
    by_cases filtered : task.dropOwnBroadcast = true
    · simp [filtered, ThreadPc.left]
    · simp [filtered, ThreadPc.left]
  | asking =>
    cases receipt with
    | packet | timeout | failed => simp [threadStep, pc] at taken
    | nics answer =>
      cases answer with
      | none =>
        simp only [threadStep, pc, Option.some.injEq] at taken
        subst taken
        exact ⟨rfl, rfl, rfl, rfl, _, rfl, rfl, fun _ => by simp [ThreadPc.left]⟩
      | some own =>
        simp only [threadStep, pc, Option.some.injEq] at taken
        subst taken
        refine ⟨rfl, rfl, rfl, rfl, _, rfl, rfl, fun _ => ?_⟩
        cases own <;> simp [ThreadPc.left]
  | handing =>
    simp only [threadStep, pc, Option.some.injEq] at taken
    subst taken
    exact ⟨rfl, rfl, rfl, rfl, _, rfl, rfl, fun _ => by simp [ThreadPc.left]⟩
  | closing =>
    simp only [threadStep, pc, Option.some.injEq] at taken
    subst taken
    exact ⟨rfl, rfl, rfl, rfl, _, rfl, rfl, fun _ => by simp [ThreadPc.left]⟩
  | clearing =>
    simp only [threadStep, pc, Option.some.injEq] at taken
    subst taken
    exact ⟨rfl, rfl, rfl, rfl, _, rfl, rfl, fun _ => by simp [ThreadPc.left]⟩
  | stopping =>
    simp only [threadStep, pc, Option.some.injEq] at taken
    subst taken
    exact ⟨rfl, rfl, rfl, rfl, _, rfl, rfl, fun _ => by simp [ThreadPc.left]⟩
  | removing =>
    obtain rfl := Option.some.inj ((threadStep_removing safe found pc receipt).symm.trans taken)
    exact ⟨rfl, rfl, rfl, rfl, _, rfl, rfl, fun _ => by simp [ThreadPc.left]⟩
  | forgetting =>
    simp only [threadStep, pc, Option.some.injEq] at taken
    subst taken
    exact ⟨rfl, rfl, rfl, rfl, _, rfl, rfl, fun _ => by simp [ThreadPc.left]⟩
  | reporting =>
    simp only [threadStep, pc, Option.some.injEq] at taken
    subst taken
    by_cases aborted : task.aborted = true
    · rw [if_pos aborted]
      exact ⟨rfl, rfl, rfl, rfl, _, rfl, rfl, fun _ => by simp [ThreadPc.left]⟩
    · rw [if_neg aborted]
      exact ⟨rfl, rfl, rfl, rfl, _, rfl, rfl, fun _ => by simp [ThreadPc.left]⟩
  | ended => simp [threadStep, pc] at taken

end Listener

/-- Every packet handed over comes from the thread that has begun last, with no return of Stop
since; no two threads live at once, and a thread that ends finds itself in rcvTask. -/
theorem Listener.packets_from_latest (events : List ListenerEvent) (listener : Listener)
    (reached : Runs.run step initial events = some listener) :
    (∀ early late index, listener.log = early ++ .handed index :: late →
      listening early = some index) ∧
    (∀ (index other : Nat) (task there : Task), listener.tasks[index]? = some task →
      listener.tasks[other]? = some there → task.pc.alive = true → there.pc.alive = true →
      index = other) ∧
    ∀ (index : Nat) (task : Task), listener.tasks[index]? = some task →
      task.pc = .removing ∨ task.pc = .forgetting → listener.rcvTask = some index := by
  have safe := run_safe events reached
  refine ⟨safe.handed, ?_, ?_⟩
  · intro index other task there found held alive living
    have pointed := safe.alive index task found alive
    exact Option.some.inj (pointed.symm.trans (safe.alive other there held living))
  · intro index task found late
    apply safe.alive index task found
    rcases late with pc | pc
    · rw [pc]
      rfl
    · rw [pc]
      rfl

theorem Listener.packets_from_latest_second :
    ∃ listener, Runs.run step initial
      [.start false, .bind true, .add, .publish, .beginThread, .thread 0 .timeout,
        .thread 0 .packet, .thread 0 .timeout, .thread 0 (.nics (some false)),
        .thread 0 .timeout, .stop, .stopThread, .thread 0 .timeout, .thread 0 .timeout,
        .thread 0 .timeout, .thread 0 .timeout, .await, .thread 0 .timeout, .thread 0 .timeout,
        .start false, .bind true, .add, .publish, .beginThread, .thread 1 .timeout,
        .thread 1 .packet, .thread 0 .timeout, .thread 1 .timeout,
        .thread 1 (.nics (some false)), .thread 1 .timeout] = some listener ∧
      listening [.began 0, .handed 0, .stopped, .began 1] = some 1 := by
  let events : List ListenerEvent :=
    [.start false, .bind true, .add, .publish, .beginThread, .thread 0 .timeout,
      .thread 0 .packet, .thread 0 .timeout, .thread 0 (.nics (some false)),
      .thread 0 .timeout, .stop, .stopThread, .thread 0 .timeout, .thread 0 .timeout,
      .thread 0 .timeout, .thread 0 .timeout, .await, .thread 0 .timeout, .thread 0 .timeout,
      .start false, .bind true, .add, .publish, .beginThread, .thread 1 .timeout,
      .thread 1 .packet, .thread 0 .timeout, .thread 1 .timeout,
      .thread 1 (.nics (some false)), .thread 1 .timeout]
  have reached : ∃ listener, Runs.run step initial events = some listener ∧
      listener.log = [.began 0, .handed 0, .stopped, .began 1, .handed 1] := ⟨_, rfl, rfl⟩
  obtain ⟨listener, run, log⟩ := reached
  exact ⟨listener, run,
    (packets_from_latest events listener run).1 [.began 0, .handed 0, .stopped, .began 1] [] 1 log⟩

namespace Listener

end Listener

def UiPc.pending : UiPc → Nat
  | .adding _ => 1
  | _ => 0

structure Listener.Kept (count : Nat) (listener : Listener) : Prop where
  inUse : listener.listenerSocketsInUse = List.range count
  created : listener.created = count + listener.ui.pending
  adding : ∀ socket, listener.ui = .adding socket → socket = count

namespace Listener

theorem kept_same {count : Nat} {listener listener' : Listener} (kept : Kept count listener)
    (inUse : listener'.listenerSocketsInUse = listener.listenerSocketsInUse)
    (created : listener'.created = listener.created)
    (before : listener.ui.pending = 0) (after : listener'.ui.pending = 0) :
    Kept count listener' where
  inUse := inUse.trans kept.inUse
  created := by rw [created, after, kept.created, before]
  adding socket ui := by
    rw [ui] at after
    exact absurd after (by simp [UiPc.pending])

theorem step_kept {count : Nat} {listener listener' : Listener} {event : ListenerEvent}
    (safe : Safe listener) (kept : Kept count listener)
    (taken : step listener event = some listener') :
    Kept (count + if event = .add then 1 else 0) listener' := by
  cases event with
  | start multicast =>
    simp only [step, start] at taken
    split at taken
    next ui =>
      split at taken
      next =>
        obtain rfl := Option.some.inj taken
        exact kept_same kept rfl rfl (by rw [ui]; rfl) (by simp [fail, ui, UiPc.pending])
      next =>
        obtain rfl := Option.some.inj taken
        exact kept_same kept rfl rfl (by rw [ui]; rfl) rfl
    next => exact absurd taken (by simp)
  | bind bound =>
    simp only [step, bind] at taken
    split at taken
    next multicast ui =>
      have created := kept.created
      rw [ui] at created
      split at taken
      next =>
        obtain rfl := Option.some.inj taken
        refine ⟨kept.inUse, congrArg (· + 1) created, fun socket same => ?_⟩
        exact (UiPc.adding.inj same).symm.trans created
      next =>
        obtain rfl := Option.some.inj taken
        exact kept_same kept rfl rfl (by rw [ui]; rfl) rfl
    next => exact absurd taken (by simp)
  | add =>
    simp only [step, add] at taken
    split at taken
    next socket ui =>
      obtain rfl := Option.some.inj taken
      obtain rfl := kept.adding socket ui
      have created := kept.created
      rw [ui] at created
      refine ⟨?_, created, fun other same => absurd same (by simp)⟩
      simp only [kept.inUse, if_true, List.range_succ]
    next => exact absurd taken (by simp)
  | publish =>
    simp only [step, publish] at taken
    split at taken
    next socket ui =>
      obtain rfl := Option.some.inj taken
      exact kept_same kept rfl rfl (by rw [ui]; rfl) rfl
    next => exact absurd taken (by simp)
  | beginThread =>
    simp only [step, beginThread] at taken
    split at taken
    next ui =>
      split at taken
      next =>
        obtain rfl := Option.some.inj taken
        exact kept_same kept rfl rfl (by rw [ui]; rfl) rfl
      next =>
        simp only [Option.map_eq_some_iff] at taken
        obtain ⟨task, -, rfl⟩ := taken
        exact kept_same kept rfl rfl (by rw [ui]; rfl) rfl
    next => exact absurd taken (by simp)
  | stop =>
    simp only [step, stop] at taken
    split at taken
    next ui =>
      split at taken
      next =>
        obtain rfl := Option.some.inj taken
        exact kept_same kept rfl rfl (by rw [ui]; rfl) rfl
      next =>
        obtain rfl := Option.some.inj taken
        exact kept_same kept rfl rfl (by rw [ui]; rfl) (by simp [ui, UiPc.pending])
    next => exact absurd taken (by simp)
  | stopThread =>
    simp only [step, stopThread] at taken
    split at taken
    next ui =>
      split at taken
      next =>
        obtain rfl := Option.some.inj taken
        exact kept_same kept rfl rfl (by rw [ui]; rfl) rfl
      next =>
        simp only [Option.map_eq_some_iff] at taken
        obtain ⟨task, -, rfl⟩ := taken
        exact kept_same kept rfl rfl (by rw [ui]; rfl) rfl
    next => exact absurd taken (by simp)
  | await =>
    simp only [step, await] at taken
    split at taken
    next index ui =>
      simp only [Option.bind_eq_some_iff, Option.ite_none_left_eq_some] at taken
      obtain ⟨task, -, -, moved⟩ := taken
      obtain rfl := Option.some.inj moved
      exact kept_same kept rfl rfl (by rw [ui]; rfl) rfl
    next => exact absurd taken (by simp)
  | dropSentToYourself value =>
    simp only [step, dropSentToYourself] at taken
    split at taken
    next ui =>
      obtain rfl := Option.some.inj taken
      refine kept_same kept rfl rfl (by rw [ui]; rfl) ?_
      by_cases running : listener.rcvTask.isSome = true <;> simp [running, UiPc.pending]
    next => exact absurd taken (by simp)
  | setDrop =>
    simp only [step, setDrop] at taken
    split at taken
    next ui =>
      split at taken
      next =>
        obtain rfl := Option.some.inj taken
        exact kept_same kept rfl rfl (by rw [ui]; rfl) rfl
      next =>
        simp only [Option.map_eq_some_iff] at taken
        obtain ⟨task, -, rfl⟩ := taken
        exact kept_same kept rfl rfl (by rw [ui]; rfl) rfl
    next => exact absurd taken (by simp)
  | thread index receipt =>
    simp only [step, Option.bind_eq_some_iff] at taken
    obtain ⟨task, found, moved⟩ := taken
    obtain ⟨ui, created, inUse, -⟩ := threadStep_changes safe found moved
    refine ⟨inUse.trans kept.inUse, ?_, ?_⟩
    · rw [created, ui]
      exact kept.created
    · rw [ui]
      exact kept.adding

theorem run_kept (events : List ListenerEvent) {count : Nat} {listener final : Listener}
    (safe : Safe listener) (kept : Kept count listener)
    (reached : Runs.run step listener events = some final) :
    Kept (count + events.count .add) final := by
  induction events generalizing count listener with
  | nil =>
    obtain rfl := Option.some.inj reached
    exact kept
  | cons event rest ih =>
    obtain ⟨next, taken, later⟩ := (Runs.run_cons _ _ _ _ _).1 reached
    have more := ih (step_safe _ _ _ safe taken) (step_kept safe kept taken) later
    rw [List.count_cons]
    simp only [beq_iff_eq]
    rwa [Nat.add_right_comm, Nat.add_assoc] at more

end Listener

def UiPc.reading : UiPc → Bool
  | .stopping | .dropping => true
  | _ => false

def Listener.Forgets (listener : Listener) (event : ListenerEvent) : Prop :=
  ∃ (index : Nat) (receipt : Receipt) (task : Task), event = .thread index receipt ∧
    listener.tasks[index]? = some task ∧ task.pc = .forgetting

namespace Listener

structure Sound (listener : Listener) : Prop where
  safe : Safe listener
  reading : listener.ui.reading = true → listener.rcvTask.isSome = true
  running : listener.ui ≠ .crashed

-- The next statement of the user interface reads null, or has done so.
def Doomed (listener : Listener) : Prop :=
  listener.ui = .crashed ∨ (listener.ui.reading = true ∧ listener.rcvTask = none)

theorem step_sound (listener : Listener) (event : ListenerEvent) (listener' : Listener)
    (sound : Sound listener) (kept : listener.ui.reading = true → ¬listener.Forgets event)
    (taken : step listener event = some listener') : Sound listener' := by
  have safe := step_safe listener event listener' sound.safe taken
  have settled (apart : listener'.ui.reading = false) (running : listener'.ui ≠ .crashed) :
      Sound listener' :=
    ⟨safe, fun reading => absurd reading (by simp [apart]), running⟩
  cases event with
  | start multicast =>
    simp only [step, start] at taken
    split at taken
    next ui =>
      split at taken <;> (obtain rfl := Option.some.inj taken)
      · exact settled (by simp [fail, ui, UiPc.reading]) sound.running
      · exact settled rfl (by simp)
    next => exact absurd taken (by simp)
  | bind bound =>
    simp only [step, bind] at taken
    split at taken
    next =>
      split at taken <;> (obtain rfl := Option.some.inj taken)
      · exact settled rfl (by simp)
      · exact settled rfl (by simp)
    next => exact absurd taken (by simp)
  | add =>
    simp only [step, add] at taken
    split at taken
    next =>
      obtain rfl := Option.some.inj taken
      exact settled rfl (by simp)
    next => exact absurd taken (by simp)
  | publish =>
    simp only [step, publish] at taken
    split at taken
    next =>
      obtain rfl := Option.some.inj taken
      exact settled rfl (by simp)
    next => exact absurd taken (by simp)
  | beginThread =>
    simp only [step, beginThread] at taken
    split at taken
    next ui =>
      obtain ⟨index, task, pointed, found, -⟩ := sound.safe.beginning ui
      simp only [pointed, found, Option.map_some, Option.some.injEq] at taken
      subst taken
      exact settled rfl (by simp)
    next => exact absurd taken (by simp)
  | stop =>
    simp only [step, stop] at taken
    split at taken
    next ui =>
      split at taken
      next running =>
        obtain rfl := Option.some.inj taken
        exact ⟨safe, fun _ => running, by simp⟩
      next =>
        obtain rfl := Option.some.inj taken
        exact settled (by simp [ui, UiPc.reading]) sound.running
    next => exact absurd taken (by simp)
  | stopThread =>
    simp only [step, stopThread] at taken
    split at taken
    next ui =>
      obtain ⟨index, pointed⟩ := Option.isSome_iff_exists.1 (sound.reading (by rw [ui]; rfl))
      simp only [pointed, Option.map_eq_some_iff] at taken
      obtain ⟨task, -, rfl⟩ := taken
      exact settled rfl (by simp)
    next => exact absurd taken (by simp)
  | await =>
    simp only [step, await] at taken
    split at taken
    next =>
      simp only [Option.bind_eq_some_iff, Option.ite_none_left_eq_some] at taken
      obtain ⟨task, -, -, moved⟩ := taken
      obtain rfl := Option.some.inj moved
      exact settled rfl (by simp)
    next => exact absurd taken (by simp)
  | dropSentToYourself value =>
    simp only [step, dropSentToYourself] at taken
    split at taken
    next ui =>
      obtain rfl := Option.some.inj taken
      by_cases running : listener.rcvTask.isSome = true
      · exact ⟨safe, fun _ => running, by simp [running]⟩
      · exact settled (by simp [running, UiPc.reading]) (by simp [running])
    next => exact absurd taken (by simp)
  | setDrop =>
    simp only [step, setDrop] at taken
    split at taken
    next ui =>
      obtain ⟨index, pointed⟩ := Option.isSome_iff_exists.1 (sound.reading (by rw [ui]; rfl))
      simp only [pointed, Option.map_eq_some_iff] at taken
      obtain ⟨task, -, rfl⟩ := taken
      exact settled rfl (by simp)
    next => exact absurd taken (by simp)
  | thread index receipt =>
    simp only [step, Option.bind_eq_some_iff] at taken
    obtain ⟨task, found, moved⟩ := taken
    obtain ⟨ui, -, -, rcvTask, -⟩ := threadStep_changes sound.safe found moved
    refine ⟨safe, fun reading => ?_, by rw [ui]; exact sound.running⟩
    rw [ui] at reading
    have other : task.pc ≠ .forgetting := fun forgetting =>
      kept reading ⟨index, receipt, task, rfl, found, forgetting⟩
    rw [rcvTask, if_neg other]
    exact sound.reading reading

theorem forgets_doomed {listener listener' : Listener} {event : ListenerEvent}
    (safe : Safe listener) (reading : listener.ui.reading = true)
    (forgets : listener.Forgets event) (taken : step listener event = some listener') :
    Doomed listener' := by
  obtain ⟨index, receipt, task, rfl, found, forgetting⟩ := forgets
  simp only [step, found, Option.bind_some] at taken
  obtain ⟨ui, -, -, rcvTask, -⟩ := threadStep_changes safe found taken
  rw [if_pos forgetting] at rcvTask
  exact .inr ⟨by rw [ui]; exact reading, rcvTask⟩

theorem ui_doomed {listener listener' : Listener} {event : ListenerEvent}
    (doomed : Doomed listener) (ui : ∀ index receipt, event ≠ .thread index receipt)
    (taken : step listener event = some listener') : Doomed listener' := by
  rcases doomed with crashed | ⟨reading, nowhere⟩
  · cases event with
    | thread index receipt => exact absurd rfl (ui index receipt)
    | _ =>
      simp [step, start, bind, add, publish, beginThread, stop, stopThread, await,
        dropSentToYourself, setDrop, crashed] at taken
  · cases now : listener.ui with
    | stopping =>
      cases event with
      | thread index receipt => exact absurd rfl (ui index receipt)
      | stopThread =>
        simp only [step, stopThread, now, nowhere, Option.some.injEq] at taken
        exact .inl (taken ▸ rfl)
      | _ =>
        simp [step, start, bind, add, publish, beginThread, stop, await, dropSentToYourself,
          setDrop, now] at taken
    | dropping =>
      cases event with
      | thread index receipt => exact absurd rfl (ui index receipt)
      | setDrop =>
        simp only [step, setDrop, now, nowhere, Option.some.injEq] at taken
        exact .inl (taken ▸ rfl)
      | _ =>
        simp [step, start, bind, add, publish, beginThread, stop, stopThread, await,
          dropSentToYourself, now] at taken
    | _ => simp [now, UiPc.reading] at reading

theorem step_doomed (listener : Listener) (event : ListenerEvent) (listener' : Listener)
    (safe : Safe listener) (doomed : Doomed listener)
    (taken : step listener event = some listener') : Doomed listener' := by
  by_cases ui : ∀ index receipt, event ≠ .thread index receipt
  · exact ui_doomed doomed ui taken
  · simp only [ne_eq, not_forall, not_not] at ui
    obtain ⟨index, receipt, rfl⟩ := ui
    simp only [step, Option.bind_eq_some_iff] at taken
    obtain ⟨task, found, moved⟩ := taken
    obtain ⟨same, -, -, rcvTask, -⟩ := threadStep_changes safe found moved
    rcases doomed with crashed | ⟨reading, nowhere⟩
    · exact .inl (same.trans crashed)
    · refine .inr ⟨by rw [same]; exact reading, ?_⟩
      rw [rcvTask, nowhere, ite_self]

/-- The user interface dies of a NullPointerException in exactly those runs in which a thread
clears rcvTask between the check of Stop or DropSentToYourself and the read that follows it. -/
theorem crashed_iff_forgotten (events : List ListenerEvent) (final : Listener)
    (reached : Runs.run step initial events = some final) (settled : final.ui.reading = false) :
    final.ui = .crashed ↔
      ¬Runs.Along step (fun now event => now.ui.reading = true → ¬now.Forgets event)
        initial events := by
  constructor
  · intro crashed along
    have sound : Sound initial :=
      ⟨initial_safe, fun reading => absurd reading (by simp [initial, UiPc.reading]),
        by simp [initial]⟩
    exact (Runs.along_invariant step _ Sound step_sound events initial final sound along
      reached).running crashed
  · intro forgotten
    have doomed : Doomed final :=
      Runs.broken_invariant step _ Safe Doomed step_safe
        (fun listener event next safe broken taken => by
          simp only [Classical.not_imp, not_not] at broken
          exact forgets_doomed safe broken.1 broken.2 taken)
        step_doomed events initial final initial_safe forgotten reached
    rcases doomed with crashed | ⟨reading, -⟩
    · exact crashed
    · exact absurd reading (by simp [settled])

-- A second Stop while the thread of the first is about to tell that it has ended.
theorem crashed_iff_forgotten_twice :
    ¬Runs.Along step (fun now event => now.ui.reading = true → ¬now.Forgets event) initial
      [.start false, .bind true, .add, .publish, .beginThread, .stop, .stopThread,
        .thread 0 .timeout, .thread 0 .timeout, .thread 0 .timeout, .thread 0 .timeout, .await,
        .stop, .thread 0 .timeout, .thread 0 .timeout, .stopThread] := by
  let events : List ListenerEvent :=
    [.start false, .bind true, .add, .publish, .beginThread, .stop, .stopThread,
      .thread 0 .timeout, .thread 0 .timeout, .thread 0 .timeout, .thread 0 .timeout, .await,
      .stop, .thread 0 .timeout, .thread 0 .timeout, .stopThread]
  have reached : ∃ final, Runs.run step initial events = some final ∧ final.ui = .crashed :=
    ⟨_, rfl, rfl⟩
  obtain ⟨final, run, crashed⟩ := reached
  exact (crashed_iff_forgotten events final run (by rw [crashed]; rfl)).1 crashed

end Listener

end EspDrone.UdpXmitter

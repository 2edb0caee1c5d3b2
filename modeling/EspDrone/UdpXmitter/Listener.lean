import EspDrone.Shared.Runs
import EspDrone.UdpXmitter.Base

set_option autoImplicit false

namespace EspDrone.UdpXmitter

inductive ThreadPc where
  | created
  | checking
  | receiving
  | filtering
  | asking
  | handing
  | closing
  | clearing
  | stopping
  | removing
  | forgetting
  | reporting
  | ended
  deriving DecidableEq, Repr

-- UDPListenerThread; `socket` names the socket it was made with.
structure Task where
  socket : Nat
  listenSocket : Option Nat
  isRunning : Bool
  stopRequest : Bool
  dropOwnBroadcast : Bool
  aborted : Bool
  pc : ThreadPc
  deriving DecidableEq, Repr

inductive UiPc where
  | idle
  | binding (multicast : Bool)
  | adding (socket : Nat)
  | publishing (socket : Nat)
  | beginning
  | stopping
  | waiting (task : Nat)
  | dropping
  -- The NullPointerException of a read that comes after the check.
  | crashed
  deriving DecidableEq, Repr

inductive Log where
  | began (task : Nat)
  | handed (task : Nat)
  | stopped
  deriving DecidableEq, Repr

-- UDPListener; `log` is what can be seen from outside.
structure Listener where
  ui : UiPc
  rcvTask : Option Nat
  tasks : List Task
  dropOwnBroadcast : Bool
  listenerSocketsInUse : List Nat
  created : Nat
  failures : List ErrorCode
  log : List Log
  deriving DecidableEq, Repr

-- What the socket has done, or what isLocalNicIP has made of the answer of getNICs.
inductive Receipt where
  | packet
  | timeout
  | failed
  | nics (own : Option Bool)
  deriving DecidableEq, Repr

inductive ListenerEvent where
  | start (multicast : Bool)
  | bind (bound : Bool)
  | add
  | publish
  | beginThread
  | stop
  | stopThread
  | await
  | dropSentToYourself (value : Bool)
  | setDrop
  | thread (task : Nat) (receipt : Receipt)
  deriving DecidableEq, Repr

namespace Listener

def initial : Listener :=
  { ui := .idle, rcvTask := none, tasks := [], dropOwnBroadcast := true
    listenerSocketsInUse := [], created := 0, failures := [], log := [] }

def fail (listener : Listener) (code : ErrorCode) : Listener :=
  { listener with failures := listener.failures ++ [code] }

def setTask (listener : Listener) (index : Nat) (task : Task) : Listener :=
  { listener with tasks := listener.tasks.set index task }

def threadStep (listener : Listener) (index : Nat) (task : Task) (receipt : Receipt) :
    Option Listener :=
  match task.pc with
  | .created => none
  | .checking =>
      some (listener.setTask index
        { task with pc := if task.stopRequest then .closing else .receiving })
  | .receiving =>
      match receipt with
      | .packet => some (listener.setTask index { task with pc := .filtering })
      | .timeout => some (listener.setTask index { task with pc := .checking })
      | .failed => some (listener.setTask index { task with pc := .closing, aborted := true })
      | .nics _ => none
  | .filtering =>
      some (listener.setTask index
        { task with pc := if task.dropOwnBroadcast then .asking else .handing })
  -- doExecute of getNICs, which all listeners share, throws, or answers, or spins.
  | .asking =>
      match receipt with
      | .nics none => some (listener.setTask index { task with pc := .closing, aborted := true })
      | .nics (some own) =>
          some (listener.setTask index { task with pc := if own then .checking else .handing })
      | _ => none
  | .handing =>
      some { listener.setTask index { task with pc := .checking } with
        log := listener.log ++ [.handed index] }
  | .closing => some (listener.setTask index { task with pc := .clearing })
  | .clearing =>
      some (listener.setTask index { task with pc := .stopping, listenSocket := none })
  | .stopping => some (listener.setTask index { task with pc := .removing, isRunning := false })
  -- listenerSocketsInUse.remove(rcvTask.listenSocket)
  | .removing =>
      match listener.rcvTask.bind (listener.tasks[·]?) with
      | none => none
      | some current =>
          some { listener.setTask index { task with pc := .forgetting } with
            listenerSocketsInUse :=
              match current.listenSocket with
              | none => listener.listenerSocketsInUse
              | some socket => listener.listenerSocketsInUse.erase socket }
  | .forgetting =>
      some { listener.setTask index { task with pc := .reporting } with rcvTask := none }
  | .reporting =>
      let ended := listener.setTask index { task with pc := .ended }
      some (if task.aborted then ended.fail .listenerThreadAborted else ended)
  | .ended => none

def start (listener : Listener) (multicast : Bool) : Option Listener :=
  match listener.ui with
  | .idle =>
      if listener.rcvTask.isSome then
        some (listener.fail (if multicast then .invalidLocalPort else .listenerAlreadyRunning))
      else some { listener with ui := .binding multicast }
  | _ => none

def bind (listener : Listener) (bound : Bool) : Option Listener :=
  match listener.ui with
  | .binding _ =>
      if bound then
        some { listener with ui := .adding listener.created, created := listener.created + 1 }
      else some { listener.fail .invalidLocalPort with ui := .idle }
  | _ => none

def add (listener : Listener) : Option Listener :=
  match listener.ui with
  | .adding socket =>
      some { listener with
        ui := .publishing socket
        listenerSocketsInUse := listener.listenerSocketsInUse ++ [socket] }
  | _ => none

def publish (listener : Listener) : Option Listener :=
  match listener.ui with
  | .publishing socket =>
      some { listener with
        ui := .beginning
        rcvTask := some listener.tasks.length
        tasks := listener.tasks ++ [
          { socket := socket, listenSocket := some socket, isRunning := false
            stopRequest := false, dropOwnBroadcast := listener.dropOwnBroadcast
            aborted := false, pc := .created }] }
  | _ => none

def beginThread (listener : Listener) : Option Listener :=
  match listener.ui with
  | .beginning =>
      match listener.rcvTask with
      | none => some { listener with ui := .crashed }
      | some index =>
          (listener.tasks[index]?).map fun task =>
            { listener.setTask index { task with isRunning := true, pc := .checking } with
              ui := .idle
              log := listener.log ++ [.began index] }
  | _ => none

def stop (listener : Listener) : Option Listener :=
  match listener.ui with
  | .idle =>
      if listener.rcvTask.isSome then some { listener with ui := .stopping }
      else some { listener with log := listener.log ++ [.stopped] }
  | _ => none

def stopThread (listener : Listener) : Option Listener :=
  match listener.ui with
  | .stopping =>
      match listener.rcvTask with
      | none => some { listener with ui := .crashed }
      | some index =>
          (listener.tasks[index]?).map fun task =>
            { listener.setTask index { task with stopRequest := true } with
              ui := .waiting index }
  | _ => none

-- The loop of StopThread, when it comes to its end.
def await (listener : Listener) : Option Listener :=
  match listener.ui with
  | .waiting index =>
      (listener.tasks[index]?).bind fun task =>
        if task.isRunning then none
        else some { listener with ui := .idle, log := listener.log ++ [.stopped] }
  | _ => none

def dropSentToYourself (listener : Listener) (value : Bool) : Option Listener :=
  match listener.ui with
  | .idle =>
      some { listener with
        dropOwnBroadcast := value
        ui := if listener.rcvTask.isSome then .dropping else .idle }
  | _ => none

def setDrop (listener : Listener) : Option Listener :=
  match listener.ui with
  | .dropping =>
      match listener.rcvTask with
      | none => some { listener with ui := .crashed }
      | some index =>
          (listener.tasks[index]?).map fun task =>
            { listener.setTask index
                { task with dropOwnBroadcast := listener.dropOwnBroadcast } with
              ui := .idle }
  | _ => none

def step (listener : Listener) : ListenerEvent → Option Listener
  | .start multicast => listener.start multicast
  | .bind bound => listener.bind bound
  | .add => listener.add
  | .publish => listener.publish
  | .beginThread => listener.beginThread
  | .stop => listener.stop
  | .stopThread => listener.stopThread
  | .await => listener.await
  | .dropSentToYourself value => listener.dropSentToYourself value
  | .setDrop => listener.setDrop
  | .thread index receipt =>
      (listener.tasks[index]?).bind fun task => listener.threadStep index task receipt

end Listener

-- The thread has said that it runs and has not taken that back.
def ThreadPc.runs : ThreadPc → Bool
  | .created | .removing | .forgetting | .reporting | .ended => false
  | _ => true

-- The listener still points to the thread.
def ThreadPc.alive : ThreadPc → Bool
  | .reporting | .ended => false
  | _ => true

def ThreadPc.holds : ThreadPc → Bool
  | .stopping | .removing | .forgetting | .reporting | .ended => false
  | _ => true

structure Task.Consistent (task : Task) : Prop where
  runs : task.isRunning = task.pc.runs
  holds : task.listenSocket = if task.pc.holds then some task.socket else none

-- The thread that has begun last, unless a Stop has returned since.
def listening (log : List Log) : Option Nat :=
  log.foldl (fun task entry =>
    match entry with
    | .began begun => some begun
    | .handed _ => task
    | .stopped => none) none

def UiPc.opening : UiPc → Bool
  | .binding _ | .adding _ | .publishing _ => true
  | _ => false

def UiPc.registered : UiPc → List Nat
  | .publishing socket => [socket]
  | _ => []

structure Listener.Safe (listener : Listener) : Prop where
  consistent : ∀ (index : Nat) (task : Task), listener.tasks[index]? = some task →
    task.Consistent
  alive : ∀ (index : Nat) (task : Task), listener.tasks[index]? = some task →
    task.pc.alive = true → listener.rcvTask = some index
  created : ∀ (index : Nat) (task : Task), listener.tasks[index]? = some task →
    task.pc = .created → listener.ui = .beginning
  current : ∀ index, listener.rcvTask = some index →
    ∃ task, listener.tasks[index]? = some task ∧ task.pc.alive = true
  opening : listener.ui.opening = true → listener.rcvTask = none
  beginning : listener.ui = .beginning → ∃ (index : Nat) (task : Task),
    listener.rcvTask = some index ∧ listener.tasks[index]? = some task ∧ task.pc = .created
  waiting : ∀ index, listener.ui = .waiting index →
    (listener.rcvTask = some index ∨ listener.rcvTask = none) ∧
      ∃ task, listener.tasks[index]? = some task ∧ task.stopRequest = true
  inUse : listener.listenerSocketsInUse =
    listener.tasks.map Task.socket ++ listener.ui.registered
  listening : ∀ (index : Nat) (task : Task), listener.tasks[index]? = some task →
    task.isRunning = true → UdpXmitter.listening listener.log = some index
  handed : ∀ early late index, listener.log = early ++ .handed index :: late →
    UdpXmitter.listening early = some index

namespace Listener

theorem initial_safe : Safe initial where
  consistent := by simp [initial]
  alive := by simp [initial]
  created := by simp [initial]
  current := by simp [initial]
  opening := by simp [initial]
  beginning := by simp [initial]
  waiting := by simp [initial]
  inUse := rfl
  listening := by simp [initial]
  handed := by simp [initial]

theorem listening_snoc (log : List Log) (entry : Log) :
    UdpXmitter.listening (log ++ [entry]) =
      match entry with
      | .began begun => some begun
      | .handed _ => UdpXmitter.listening log
      | .stopped => none := by
  simp [UdpXmitter.listening, List.foldl_append]

theorem tasks_set {listener : Listener} {index : Nat} {task : Task}
    (found : listener.tasks[index]? = some task) (task' : Task) (other : Nat) :
    (listener.setTask index task').tasks[other]? =
      if index = other then some task' else listener.tasks[other]? := by
  obtain ⟨inside, -⟩ := List.getElem?_eq_some_iff.1 found
  simp only [setTask, List.getElem?_set, inside, if_true]

theorem sockets_set {listener : Listener} {index : Nat} {task : Task}
    (found : listener.tasks[index]? = some task) (task' : Task)
    (same : task'.socket = task.socket) :
    (listener.setTask index task').tasks.map Task.socket =
      listener.tasks.map Task.socket := by
  obtain ⟨inside, rfl⟩ := List.getElem?_eq_some_iff.1 found
  have mapped : index < (listener.tasks.map Task.socket).length := by simpa using inside
  have held : task'.socket = (listener.tasks.map Task.socket)[index] := by
    rw [same, List.getElem_map]
  rw [setTask, List.map_set, held, List.set_getElem_self]

theorem setTask_safe {listener : Listener} {index : Nat} {task : Task} (safe : Safe listener)
    (found : listener.tasks[index]? = some task) (task' : Task) (consistent : task'.Consistent)
    (live : task'.pc.alive = task.pc.alive) (started : task.pc ≠ .created)
    (started' : task'.pc ≠ .created) (same : task'.socket = task.socket)
    (asked : task.stopRequest = true → task'.stopRequest = true)
    (quieter : task'.isRunning = true → task.isRunning = true) :
    Safe (listener.setTask index task') := by
  have lookup := tasks_set found task'
  constructor
  case consistent =>
    intro other there held
    rw [lookup] at held
    split at held
    · obtain rfl := Option.some.inj held
      exact consistent
    · exact safe.consistent other there held
  case alive =>
    intro other there held alive
    rw [lookup] at held
    split at held
    next here =>
      obtain rfl := Option.some.inj held
      rw [← here]
      exact safe.alive index task found (live ▸ alive)
    next => exact safe.alive other there held alive
  case created =>
    intro other there held fresh
    rw [lookup] at held
    split at held
    · obtain rfl := Option.some.inj held
      exact absurd fresh started'
    · exact safe.created other there held fresh
  case current =>
    intro other pointed
    obtain ⟨there, held, alive⟩ := safe.current other pointed
    by_cases here : index = other
    · subst here
      obtain rfl := Option.some.inj (found.symm.trans held)
      exact ⟨task', by rw [lookup, if_pos rfl], live.trans alive⟩
    · exact ⟨there, by rw [lookup, if_neg here]; exact held, alive⟩
  case opening => exact safe.opening
  case beginning =>
    intro ui
    obtain ⟨other, there, pointed, held, fresh⟩ := safe.beginning ui
    by_cases here : index = other
    · subst here
      obtain rfl := Option.some.inj (found.symm.trans held)
      exact absurd fresh started
    · exact ⟨other, there, pointed, by rw [lookup, if_neg here]; exact held, fresh⟩
  case waiting =>
    intro other ui
    obtain ⟨pointed, there, held, requested⟩ := safe.waiting other ui
    refine ⟨pointed, ?_⟩
    by_cases here : index = other
    · subst here
      obtain rfl := Option.some.inj (found.symm.trans held)
      exact ⟨task', by rw [lookup, if_pos rfl], asked requested⟩
    · exact ⟨there, by rw [lookup, if_neg here]; exact held, requested⟩
  case inUse =>
    rw [sockets_set found task' same]
    exact safe.inUse
  case listening =>
    intro other there held running
    rw [lookup] at held
    split at held
    next here =>
      obtain rfl := Option.some.inj held
      rw [← here]
      exact safe.listening index task found (quieter running)
    next => exact safe.listening other there held running
  case handed => exact safe.handed

theorem split_snoc {log early late : List Log} {entry mark : Log}
    (split : log ++ [entry] = early ++ mark :: late) :
    (early = log ∧ mark = entry) ∨ ∃ rest, log = early ++ mark :: rest := by
  rcases List.append_eq_append_iff.1 split with ⟨rest, rfl, tail⟩ | ⟨rest, before, tail⟩
  · cases rest with
    | nil =>
      rw [List.nil_append, List.cons.injEq] at tail
      exact .inl ⟨List.append_nil log, tail.1.symm⟩
    | cons entry rest => simp at tail
  · cases rest with
    | nil =>
      rw [List.nil_append, List.cons.injEq] at tail
      exact .inl ⟨by rw [before, List.append_nil], tail.1⟩
    | cons entry rest =>
      rw [List.cons_append, List.cons.injEq] at tail
      exact .inr ⟨rest, by rw [before, tail.1]⟩

theorem log_safe {listener : Listener} (safe : Safe listener) (entry : Log)
    (running : ∀ (index : Nat) (task : Task), listener.tasks[index]? = some task →
      task.isRunning = true → UdpXmitter.listening (listener.log ++ [entry]) = some index)
    (current : ∀ index, entry = .handed index →
      UdpXmitter.listening listener.log = some index) :
    Safe { listener with log := listener.log ++ [entry] } where
  consistent := safe.consistent
  alive := safe.alive
  created := safe.created
  current := safe.current
  opening := safe.opening
  beginning := safe.beginning
  waiting := safe.waiting
  inUse := safe.inUse
  listening := running
  handed early late index split := by
    rcases split_snoc split with ⟨rfl, handed⟩ | ⟨rest, before⟩
    · exact current index handed.symm
    · exact safe.handed early rest index before

theorem log_handed_safe {listener : Listener} {index : Nat} (safe : Safe listener)
    (current : UdpXmitter.listening listener.log = some index) :
    Safe { listener with log := listener.log ++ [.handed index] } := by
  apply log_safe safe
  · intro other there held running
    rw [listening_snoc]
    exact safe.listening other there held running
  · intro other same
    obtain rfl := Log.handed.inj same
    exact current

theorem log_stopped_safe {listener : Listener} (safe : Safe listener)
    (still : ∀ (index : Nat) (task : Task), listener.tasks[index]? = some task →
      task.isRunning = false) :
    Safe { listener with log := listener.log ++ [.stopped] } := by
  apply log_safe safe
  · intro other there held running
    rw [still other there held] at running
    exact absurd running (by simp)
  · intro other same
    exact absurd same (by simp)

theorem safe_of_eq {listener listener' : Listener} (safe : Safe listener)
    (ui : listener'.ui = listener.ui) (rcvTask : listener'.rcvTask = listener.rcvTask)
    (tasks : listener'.tasks = listener.tasks)
    (inUse : listener'.listenerSocketsInUse = listener.listenerSocketsInUse)
    (log : listener'.log = listener.log) : Safe listener' := by
  cases listener
  cases listener'
  simp only at ui rcvTask tasks inUse log
  subst ui rcvTask tasks inUse log
  exact ⟨safe.consistent, safe.alive, safe.created, safe.current, safe.opening, safe.beginning,
    safe.waiting, safe.inUse, safe.listening, safe.handed⟩

theorem fail_safe {listener : Listener} (safe : Safe listener) (code : ErrorCode) :
    Safe (listener.fail code) :=
  safe_of_eq safe rfl rfl rfl rfl rfl

-- What the listener finds in rcvTask when its thread stops is that thread, without its socket.
theorem removing_finds_itself {listener : Listener} {index : Nat} {task : Task}
    (safe : Safe listener) (found : listener.tasks[index]? = some task)
    (removing : task.pc = .removing) :
    listener.rcvTask = some index ∧ task.listenSocket = none := by
  constructor
  · exact safe.alive index task found (by rw [removing]; rfl)
  · rw [(safe.consistent index task found).holds, removing]
    rfl

theorem threadStep_removing {listener : Listener} {index : Nat} {task : Task}
    (safe : Safe listener) (found : listener.tasks[index]? = some task)
    (removing : task.pc = .removing) (receipt : Receipt) :
    listener.threadStep index task receipt =
      some (listener.setTask index { task with pc := .forgetting }) := by
  obtain ⟨pointed, closed⟩ := removing_finds_itself safe found removing
  simp only [threadStep, removing, pointed, Option.bind_some, found, closed]
  rfl

theorem forget_safe {listener : Listener} {index : Nat} {task : Task} (safe : Safe listener)
    (found : listener.tasks[index]? = some task) (forgetting : task.pc = .forgetting) :
    Safe { listener.setTask index { task with pc := .reporting } with rcvTask := none } := by
  have lookup := tasks_set found { task with pc := .reporting }
  have pointed := safe.alive index task found (by rw [forgetting]; rfl)
  constructor
  case consistent =>
    intro other there held
    rw [lookup] at held
    split at held
    · obtain rfl := Option.some.inj held
      have before := safe.consistent index task found
      exact ⟨by rw [before.runs, forgetting]; rfl, by rw [before.holds, forgetting]; rfl⟩
    · exact safe.consistent other there held
  case alive =>
    intro other there held alive
    rw [lookup] at held
    split at held
    · obtain rfl := Option.some.inj held
      exact absurd alive (by simp [ThreadPc.alive])
    next elsewhere =>
      have also := safe.alive other there held alive
      exact absurd (Option.some.inj (pointed.symm.trans also)) elsewhere
  case created =>
    intro other there held fresh
    rw [lookup] at held
    split at held
    · obtain rfl := Option.some.inj held
      exact absurd fresh (by simp)
    · exact safe.created other there held fresh
  case current =>
    intro other nowhere
    exact absurd nowhere (by simp)
  case opening => exact fun _ => rfl
  case beginning =>
    intro ui
    obtain ⟨other, there, also, held, fresh⟩ := safe.beginning ui
    obtain rfl := Option.some.inj (pointed.symm.trans also)
    obtain rfl := Option.some.inj (found.symm.trans held)
    exact absurd (forgetting.symm.trans fresh) (by simp)
  case waiting =>
    intro other ui
    obtain ⟨-, there, held, requested⟩ := safe.waiting other ui
    refine ⟨.inr rfl, ?_⟩
    by_cases here : index = other
    · subst here
      obtain rfl := Option.some.inj (found.symm.trans held)
      exact ⟨{ task with pc := .reporting }, by rw [lookup, if_pos rfl], requested⟩
    · exact ⟨there, by rw [lookup, if_neg here]; exact held, requested⟩
  case inUse =>
    have same := sockets_set found { task with pc := .reporting } rfl
    exact safe.inUse.trans (by rw [← same]; rfl)
  case listening =>
    intro other there held running
    rw [lookup] at held
    split at held
    next here =>
      obtain rfl := Option.some.inj held
      rw [← here]
      exact safe.listening index task found running
    next => exact safe.listening other there held running
  case handed => exact safe.handed

theorem threadStep_safe {listener listener' : Listener} {index : Nat} {task : Task}
    {receipt : Receipt} (safe : Safe listener) (found : listener.tasks[index]? = some task)
    (taken : listener.threadStep index task receipt = some listener') : Safe listener' := by
  have before := safe.consistent index task found
  have runs := before.runs
  have holds := before.holds
  have go (task' : Task) (consistent : task'.Consistent)
      (live : task'.pc.alive = task.pc.alive) (started : task.pc ≠ .created)
      (started' : task'.pc ≠ .created) (same : task'.socket = task.socket)
      (asked : task'.stopRequest = task.stopRequest)
      (quieter : task'.isRunning = true → task.isRunning = true) :
      Safe (listener.setTask index task') :=
    setTask_safe safe found task' consistent live started started' same
      (fun requested => asked.trans requested) quieter
  cases pc : task.pc with
  | created => simp [threadStep, pc] at taken
  | ended => simp [threadStep, pc] at taken
  | checking =>
    simp only [threadStep, pc, Option.some.injEq] at taken
    subst taken
    rw [pc] at runs holds
    by_cases requested : task.stopRequest = true
    · rw [if_pos requested]
      exact go _ ⟨runs, holds⟩ (by rw [pc]; rfl) (by simp [pc]) (by simp) rfl rfl id
    · rw [if_neg requested]
      exact go _ ⟨runs, holds⟩ (by rw [pc]; rfl) (by simp [pc]) (by simp) rfl rfl id
  | receiving =>
    rw [pc] at runs holds
    cases receipt with
    | packet =>
      simp only [threadStep, pc, Option.some.injEq] at taken
      subst taken
      exact go _ ⟨runs, holds⟩ (by rw [pc]; rfl) (by simp [pc]) (by simp) rfl rfl id
    | timeout =>
      simp only [threadStep, pc, Option.some.injEq] at taken
      subst taken
      exact go _ ⟨runs, holds⟩ (by rw [pc]; rfl) (by simp [pc]) (by simp) rfl rfl id
    | failed =>
      simp only [threadStep, pc, Option.some.injEq] at taken
      subst taken
      exact go _ ⟨runs, holds⟩ (by rw [pc]; rfl) (by simp [pc]) (by simp) rfl rfl id
    | nics answer => simp [threadStep, pc] at taken
  | filtering =>
    simp only [threadStep, pc, Option.some.injEq] at taken
    subst taken
    rw [pc] at runs holds
    by_cases filtered : task.dropOwnBroadcast = true
    · rw [if_pos filtered]
      exact go _ ⟨runs, holds⟩ (by rw [pc]; rfl) (by simp [pc]) (by simp) rfl rfl id
    · rw [if_neg filtered]
      exact go _ ⟨runs, holds⟩ (by rw [pc]; rfl) (by simp [pc]) (by simp) rfl rfl id
  | asking =>
    rw [pc] at runs holds
    cases receipt with
    | packet | timeout | failed => simp [threadStep, pc] at taken
    | nics answer =>
      cases answer with
      | none =>
        simp only [threadStep, pc, Option.some.injEq] at taken
        subst taken
        exact go _ ⟨runs, holds⟩ (by rw [pc]; rfl) (by simp [pc]) (by simp) rfl rfl id
      | some own =>
        simp only [threadStep, pc, Option.some.injEq] at taken
        subst taken
        cases own with
        | true => exact go _ ⟨runs, holds⟩ (by rw [pc]; rfl) (by simp [pc]) (by simp) rfl rfl id
        | false => exact go _ ⟨runs, holds⟩ (by rw [pc]; rfl) (by simp [pc]) (by simp) rfl rfl id
  | handing =>
    simp only [threadStep, pc, Option.some.injEq] at taken
    subst taken
    rw [pc] at runs holds
    exact log_handed_safe
      (go _ ⟨runs, holds⟩ (by rw [pc]; rfl) (by simp [pc]) (by simp) rfl rfl id)
      (safe.listening index task found runs)
  | closing =>
    simp only [threadStep, pc, Option.some.injEq] at taken
    subst taken
    rw [pc] at runs holds
    exact go _ ⟨runs, holds⟩ (by rw [pc]; rfl) (by simp [pc]) (by simp) rfl rfl id
  | clearing =>
    simp only [threadStep, pc, Option.some.injEq] at taken
    subst taken
    rw [pc] at runs
    exact go _ ⟨runs, rfl⟩ (by rw [pc]; rfl) (by simp [pc]) (by simp) rfl rfl id
  | stopping =>
    simp only [threadStep, pc, Option.some.injEq] at taken
    subst taken
    rw [pc] at holds
    exact go _ ⟨rfl, holds⟩ (by rw [pc]; rfl) (by simp [pc]) (by simp) rfl rfl (by simp)
  | removing =>
    obtain rfl := Option.some.inj ((threadStep_removing safe found pc receipt).symm.trans taken)
    rw [pc] at runs holds
    exact go _ ⟨runs, holds⟩ (by rw [pc]; rfl) (by simp [pc]) (by simp) rfl rfl id
  | forgetting =>
    simp only [threadStep, pc, Option.some.injEq] at taken
    subst taken
    exact forget_safe safe found pc
  | reporting =>
    simp only [threadStep, pc, Option.some.injEq] at taken
    subst taken
    rw [pc] at runs holds
    have ended :=
      go { task with pc := .ended } ⟨runs, holds⟩ (by rw [pc]; rfl) (by simp [pc]) (by simp)
        rfl rfl id
    by_cases aborted : task.aborted = true
    · rw [if_pos aborted]
      exact fail_safe ended _
    · rw [if_neg aborted]
      exact ended

theorem ui_safe {listener : Listener} (safe : Safe listener) (ui : UiPc)
    (before : listener.ui ≠ .beginning) (after : ui ≠ .beginning)
    (opening : ui.opening = true → listener.rcvTask = none)
    (registered : ui.registered = listener.ui.registered)
    (waiting : ∀ index, ui = .waiting index →
      (listener.rcvTask = some index ∨ listener.rcvTask = none) ∧
        ∃ task, listener.tasks[index]? = some task ∧ task.stopRequest = true) :
    Safe { listener with ui := ui } where
  consistent := safe.consistent
  alive := safe.alive
  created index task held fresh := absurd (safe.created index task held fresh) before
  current := safe.current
  opening := opening
  beginning now := absurd now after
  waiting := waiting
  inUse := by
    rw [registered]
    exact safe.inUse
  listening := safe.listening
  handed := safe.handed

theorem alive_of_running {listener : Listener} (safe : Safe listener) {index : Nat} {task : Task}
    (held : listener.tasks[index]? = some task) (running : task.isRunning = true) :
    task.pc.alive = true := by
  rw [(safe.consistent index task held).runs] at running
  cases pc : task.pc <;> simp_all [ThreadPc.runs, ThreadPc.alive]

theorem still_of_none {listener : Listener} (safe : Safe listener)
    (nowhere : listener.rcvTask = none) (index : Nat) (task : Task)
    (held : listener.tasks[index]? = some task) : task.isRunning = false := by
  cases running : task.isRunning with
  | false => rfl
  | true =>
    have pointed := safe.alive index task held (alive_of_running safe held running)
    exact absurd pointed (by simp [nowhere])

theorem publish_safe {listener : Listener} {socket : Nat} (safe : Safe listener)
    (ui : listener.ui = .publishing socket) (task : Task) (consistent : task.Consistent)
    (created : task.pc = .created) (same : task.socket = socket) :
    Safe { listener with
      ui := .beginning
      rcvTask := some listener.tasks.length
      tasks := listener.tasks ++ [task] } := by
  have nowhere : listener.rcvTask = none := safe.opening (by rw [ui]; rfl)
  have quiet : task.isRunning = false := by rw [consistent.runs, created]; rfl
  have lookup (index : Nat) (there : Task)
      (held : (listener.tasks ++ [task])[index]? = some there) :
      listener.tasks[index]? = some there ∨ (index = listener.tasks.length ∧ there = task) := by
    by_cases inside : index < listener.tasks.length
    · rw [List.getElem?_append_left inside] at held
      exact .inl held
    · rw [List.getElem?_append_right (by omega), List.getElem?_singleton] at held
      split at held
      · exact .inr ⟨by omega, (Option.some.inj held).symm⟩
      · exact absurd held (by simp)
  constructor
  case consistent =>
    intro index there held
    rcases lookup index there held with old | ⟨-, rfl⟩
    · exact safe.consistent index there old
    · exact consistent
  case alive =>
    intro index there held alive
    rcases lookup index there held with old | ⟨rfl, -⟩
    · exact absurd (safe.alive index there old alive) (by simp [nowhere])
    · rfl
  case created => exact fun _ _ _ _ => rfl
  case current =>
    intro index pointed
    obtain rfl := Option.some.inj pointed
    exact ⟨task, by simp, by rw [created]; rfl⟩
  case opening => exact fun never => absurd never (by simp [UiPc.opening])
  case beginning => exact fun _ => ⟨listener.tasks.length, task, rfl, by simp, created⟩
  case waiting => exact fun index never => absurd never (by simp)
  case inUse =>
    have before := safe.inUse
    rw [ui] at before
    simp only [UiPc.registered] at before
    simp [before, same, UiPc.registered]
  case listening =>
    intro index there held running
    rcases lookup index there held with old | ⟨-, rfl⟩
    · exact safe.listening index there old running
    · exact absurd running (by simp [quiet])
  case handed => exact safe.handed

theorem begin_safe {listener : Listener} {index : Nat} {task : Task} (safe : Safe listener)
    (ui : listener.ui = .beginning) (pointed : listener.rcvTask = some index)
    (found : listener.tasks[index]? = some task) :
    Safe { listener.setTask index { task with isRunning := true, pc := .checking } with
      ui := .idle
      log := listener.log ++ [.began index] } := by
  have lookup := tasks_set found { task with isRunning := true, pc := .checking }
  have fresh : task.pc = .created := by
    obtain ⟨other, there, also, held, fresh⟩ := safe.beginning ui
    obtain rfl := Option.some.inj (pointed.symm.trans also)
    obtain rfl := Option.some.inj (found.symm.trans held)
    exact fresh
  have alone (other : Nat) (there : Task) (held : listener.tasks[other]? = some there)
      (alive : there.pc.alive = true) : index = other :=
    Option.some.inj (pointed.symm.trans (safe.alive other there held alive))
  constructor
  case consistent =>
    intro other there held
    rw [lookup] at held
    split at held
    · obtain rfl := Option.some.inj held
      have holds := (safe.consistent index task found).holds
      rw [fresh] at holds
      exact ⟨rfl, holds⟩
    · exact safe.consistent other there held
  case alive =>
    intro other there held alive
    rw [lookup] at held
    split at held
    next here => exact here ▸ pointed
    next => exact safe.alive other there held alive
  case created =>
    intro other there held created
    rw [lookup] at held
    split at held
    · obtain rfl := Option.some.inj held
      exact absurd created (by simp)
    next elsewhere =>
      exact absurd (alone other there held (by rw [created]; rfl)) elsewhere
  case current =>
    intro other also
    obtain rfl := Option.some.inj (pointed.symm.trans also)
    exact ⟨_, by rw [lookup, if_pos rfl], rfl⟩
  case opening => exact fun never => absurd never (by simp [UiPc.opening])
  case beginning => exact fun never => absurd never (by simp)
  case waiting => exact fun other never => absurd never (by simp)
  case inUse =>
    have same := sockets_set found { task with isRunning := true, pc := .checking } rfl
    have before := safe.inUse
    rw [ui] at before
    exact before.trans (by rw [← same]; rfl)
  case listening =>
    intro other there held running
    rw [listening_snoc]
    rw [lookup] at held
    split at held
    next here => rw [here]
    next elsewhere =>
      exact absurd (alone other there held (alive_of_running safe held running)) elsewhere
  case handed =>
    intro early late other split
    rcases split_snoc split with ⟨-, never⟩ | ⟨rest, before⟩
    · exact absurd never (by simp)
    · exact safe.handed early rest other before

theorem setFlag_safe {listener : Listener} {index : Nat} {task : Task} (safe : Safe listener)
    (ui : listener.ui ≠ .beginning) (found : listener.tasks[index]? = some task) (task' : Task)
    (pc : task'.pc = task.pc) (socket : task'.socket = task.socket)
    (listenSocket : task'.listenSocket = task.listenSocket)
    (isRunning : task'.isRunning = task.isRunning)
    (asked : task.stopRequest = true → task'.stopRequest = true) :
    Safe (listener.setTask index task') := by
  have before := safe.consistent index task found
  have started : task.pc ≠ .created := fun fresh => ui (safe.created index task found fresh)
  apply setTask_safe safe found task' _ _ started _ socket asked
  · rw [isRunning]
    exact id
  · exact ⟨by rw [isRunning, pc, before.runs], by rw [listenSocket, pc, socket, before.holds]⟩
  · rw [pc]
  · rw [pc]
    exact started

theorem start_safe {listener listener' : Listener} (safe : Safe listener) (multicast : Bool)
    (taken : listener.start multicast = some listener') : Safe listener' := by
  unfold start at taken
  split at taken
  next ui =>
    by_cases running : listener.rcvTask.isSome = true
    · rw [if_pos running] at taken
      obtain rfl := Option.some.inj taken
      exact fail_safe safe _
    · rw [if_neg running] at taken
      obtain rfl := Option.some.inj taken
      exact ui_safe safe _ (by simp [ui]) (by simp) (fun _ => by simpa using running)
        (by rw [ui]; rfl) (by simp)
  next => exact absurd taken (by simp)

theorem bind_safe {listener listener' : Listener} (safe : Safe listener) (bound : Bool)
    (taken : listener.bind bound = some listener') : Safe listener' := by
  unfold bind at taken
  split at taken
  next multicast ui =>
    have nowhere := safe.opening (by rw [ui]; rfl)
    by_cases held : bound = true
    · rw [if_pos held] at taken
      obtain rfl := Option.some.inj taken
      have moved := ui_safe safe (.adding listener.created) (by simp [ui]) (by simp)
        (fun _ => nowhere) (by rw [ui]; rfl) (by simp)
      exact safe_of_eq moved rfl rfl rfl rfl rfl
    · rw [if_neg held] at taken
      obtain rfl := Option.some.inj taken
      exact ui_safe (fail_safe safe _) .idle (by simp [fail, ui]) (by simp) (fun _ => nowhere)
        (by simp [fail, ui, UiPc.registered]) (by simp)
  next => exact absurd taken (by simp)

theorem add_safe {listener listener' : Listener} (safe : Safe listener)
    (taken : listener.add = some listener') : Safe listener' := by
  unfold add at taken
  split at taken
  next socket ui =>
    obtain rfl := Option.some.inj taken
    have nowhere := safe.opening (by rw [ui]; rfl)
    constructor
    case consistent => exact safe.consistent
    case alive => exact safe.alive
    case created =>
      intro index task held fresh
      have beginning := safe.created index task held fresh
      exact absurd (ui.symm.trans beginning) (by simp)
    case current => exact safe.current
    case opening => exact fun _ => nowhere
    case beginning => exact fun never => absurd never (by simp)
    case waiting => exact fun index never => absurd never (by simp)
    case inUse =>
      have before := safe.inUse
      rw [ui] at before
      simp only [UiPc.registered, List.append_nil] at before
      simp only [before, UiPc.registered]
    case listening => exact safe.listening
    case handed => exact safe.handed
  next => exact absurd taken (by simp)

theorem beginThread_safe {listener listener' : Listener} (safe : Safe listener)
    (taken : listener.beginThread = some listener') : Safe listener' := by
  unfold beginThread at taken
  split at taken
  next ui =>
    obtain ⟨index, task, pointed, found, -⟩ := safe.beginning ui
    simp only [pointed, found, Option.map_some, Option.some.injEq] at taken
    subst taken
    exact begin_safe safe ui pointed found
  next => exact absurd taken (by simp)

theorem stop_safe {listener listener' : Listener} (safe : Safe listener)
    (taken : listener.stop = some listener') : Safe listener' := by
  unfold stop at taken
  split at taken
  next ui =>
    by_cases running : listener.rcvTask.isSome = true
    · rw [if_pos running] at taken
      obtain rfl := Option.some.inj taken
      exact ui_safe safe _ (by simp [ui]) (by simp) (by simp [UiPc.opening]) (by rw [ui]; rfl)
        (by simp)
    · rw [if_neg running] at taken
      obtain rfl := Option.some.inj taken
      exact log_stopped_safe safe (still_of_none safe (by simpa using running))
  next => exact absurd taken (by simp)

theorem crash_safe {listener : Listener} (safe : Safe listener)
    (before : listener.ui ≠ .beginning) (registered : listener.ui.registered = []) :
    Safe { listener with ui := .crashed } :=
  ui_safe safe _ before (by simp) (by simp [UiPc.opening]) registered.symm (by simp)

theorem stopThread_safe {listener listener' : Listener} (safe : Safe listener)
    (taken : listener.stopThread = some listener') : Safe listener' := by
  unfold stopThread at taken
  split at taken
  next ui =>
    split at taken
    next =>
      obtain rfl := Option.some.inj taken
      exact crash_safe safe (by simp [ui]) (by rw [ui]; rfl)
    next index pointed =>
      obtain ⟨task, found, -⟩ := safe.current index pointed
      simp only [found, Option.map_some, Option.some.injEq] at taken
      subst taken
      have asked := setFlag_safe safe (by simp [ui]) found { task with stopRequest := true }
        rfl rfl rfl rfl fun _ => rfl
      apply ui_safe asked (.waiting index)
      · simp [setTask, ui]
      · simp
      · simp [UiPc.opening]
      · simp [setTask, ui, UiPc.registered]
      · intro other same
        obtain rfl := UiPc.waiting.inj same
        refine ⟨.inl pointed, { task with stopRequest := true }, ?_, rfl⟩
        rw [tasks_set found, if_pos rfl]
  next => exact absurd taken (by simp)

theorem await_safe {listener listener' : Listener} (safe : Safe listener)
    (taken : listener.await = some listener') : Safe listener' := by
  unfold await at taken
  split at taken
  next index ui =>
    simp only [Option.bind_eq_some_iff, Option.ite_none_left_eq_some] at taken
    obtain ⟨task, found, ended, same⟩ := taken
    obtain rfl := Option.some.inj same
    have still (other : Nat) (there : Task) (held : listener.tasks[other]? = some there) :
        there.isRunning = false := by
      by_cases here : index = other
      · subst here
        obtain rfl := Option.some.inj (found.symm.trans held)
        simpa using ended
      · cases running : there.isRunning with
        | false => rfl
        | true =>
          have pointed := safe.alive other there held (alive_of_running safe held running)
          rcases (safe.waiting index ui).1 with also | nowhere
          · exact absurd (Option.some.inj (also.symm.trans pointed)) here
          · exact absurd (nowhere.symm.trans pointed) (by simp)
    have stopped := log_stopped_safe safe still
    exact ui_safe stopped .idle (by simp [ui]) (by simp) (by simp [UiPc.opening])
      (by rw [ui]; rfl) (by simp)
  next => exact absurd taken (by simp)

theorem dropSentToYourself_safe {listener listener' : Listener} (safe : Safe listener)
    (value : Bool) (taken : listener.dropSentToYourself value = some listener') :
    Safe listener' := by
  unfold dropSentToYourself at taken
  split at taken
  next ui =>
    obtain rfl := Option.some.inj taken
    by_cases running : listener.rcvTask.isSome = true
    · simp only [running, if_true]
      have moved := ui_safe safe .dropping (by simp [ui]) (by simp) (by simp [UiPc.opening])
        (by rw [ui]; rfl) (by simp)
      exact safe_of_eq moved rfl rfl rfl rfl rfl
    · simp only [running]
      exact safe_of_eq safe ui.symm rfl rfl rfl rfl
  next => exact absurd taken (by simp)

theorem setDrop_safe {listener listener' : Listener} (safe : Safe listener)
    (taken : listener.setDrop = some listener') : Safe listener' := by
  unfold setDrop at taken
  split at taken
  next ui =>
    split at taken
    next =>
      obtain rfl := Option.some.inj taken
      exact crash_safe safe (by simp [ui]) (by rw [ui]; rfl)
    next index pointed =>
      obtain ⟨task, found, -⟩ := safe.current index pointed
      simp only [found, Option.map_some, Option.some.injEq] at taken
      subst taken
      have flagged := setFlag_safe safe (by simp [ui]) found
        { task with dropOwnBroadcast := listener.dropOwnBroadcast } rfl rfl rfl rfl id
      exact ui_safe flagged .idle (by simp [setTask, ui]) (by simp) (by simp [UiPc.opening])
        (by simp [setTask, ui, UiPc.registered]) (by simp)
  next => exact absurd taken (by simp)

theorem step_safe (listener : Listener) (event : ListenerEvent) (listener' : Listener)
    (safe : Safe listener) (taken : step listener event = some listener') : Safe listener' := by
  cases event with
  | start multicast => exact start_safe safe multicast taken
  | bind bound => exact bind_safe safe bound taken
  | add => exact add_safe safe taken
  | publish =>
    simp only [step, publish] at taken
    split at taken
    next socket ui =>
      obtain rfl := Option.some.inj taken
      exact publish_safe safe ui _ ⟨rfl, rfl⟩ rfl rfl
    next => exact absurd taken (by simp)
  | beginThread => exact beginThread_safe safe taken
  | stop => exact stop_safe safe taken
  | stopThread => exact stopThread_safe safe taken
  | await => exact await_safe safe taken
  | dropSentToYourself value => exact dropSentToYourself_safe safe value taken
  | setDrop => exact setDrop_safe safe taken
  | thread index receipt =>
    simp only [step, Option.bind_eq_some_iff] at taken
    obtain ⟨task, found, moved⟩ := taken
    exact threadStep_safe safe found moved

theorem run_safe (events : List ListenerEvent) {listener : Listener}
    (reached : Runs.run step initial events = some listener) : Safe listener :=
  Runs.run_invariant step Safe step_safe events initial listener initial_safe reached

end Listener

end EspDrone.UdpXmitter

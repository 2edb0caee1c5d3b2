import EspDrone.Shared.Runs

set_option autoImplicit false

namespace EspDrone.UdpXmitter

variable {P R : Type}

inductive CallPc where
  | storing
  | clearing
  | creating
  | marking
  | starting
  | spinning
  | checking
  | returning
  | ended
  deriving DecidableEq, Repr

inductive WorkerPc where
  | created
  | loading
  | executing
  | aborting
  | finishing
  | ended
  deriving DecidableEq, Repr

-- A call of doExecute. The inner `none` of an outcome is an exception.
structure Invocation (P R : Type) where
  params : P
  pc : CallPc
  outcome : Option (Option R)
  deriving DecidableEq, Repr

-- MyThread, with the parameters it has read and what `execute` did.
structure Worker (P R : Type) where
  pc : WorkerPc
  params : Option P
  outcome : Option (Option R)
  deriving DecidableEq, Repr

structure AsyncFunction (P R : Type) where
  result : R
  threadIsRunning : Bool
  threadWasAborted : Bool
  myThread : Option Nat
  localParams : Option P
  calls : List (Invocation P R)
  workers : List (Worker P R)
  deriving DecidableEq, Repr

inductive FunctionEvent (P R : Type) where
  | call (params : P)
  | caller (call : Nat)
  | worker (worker : Nat) (outcome : Option R)
  deriving DecidableEq, Repr

namespace AsyncFunction

def initial (null : R) : AsyncFunction P R :=
  { result := null, threadIsRunning := false, threadWasAborted := false, myThread := none
    localParams := none, calls := [], workers := [] }

def setCall (function : AsyncFunction P R) (index : Nat) (call : Invocation P R) :
    AsyncFunction P R :=
  { function with calls := function.calls.set index call }

def setWorker (function : AsyncFunction P R) (index : Nat) (worker : Worker P R) :
    AsyncFunction P R :=
  { function with workers := function.workers.set index worker }

def callerStep (function : AsyncFunction P R) (index : Nat) (call : Invocation P R) :
    Option (AsyncFunction P R) :=
  match call.pc with
  | .storing =>
      some { function.setCall index { call with pc := .clearing } with
        localParams := some call.params }
  | .clearing =>
      some { function.setCall index { call with pc := .creating } with
        threadWasAborted := false }
  | .creating =>
      some { function.setCall index { call with pc := .marking } with
        myThread := some function.workers.length
        workers := function.workers ++ [{ pc := .created, params := none, outcome := none }] }
  | .marking =>
      some { function.setCall index { call with pc := .starting } with threadIsRunning := true }
  | .starting =>
      function.myThread.bind fun thread =>
        (function.workers[thread]?).map fun worker =>
          if worker.pc = .created then
            (function.setCall index { call with pc := .spinning }).setWorker thread
              { worker with pc := .loading }
          -- IllegalThreadStateException
          else function.setCall index { call with pc := .ended, outcome := some none }
  | .spinning =>
      if function.threadIsRunning then none
      else some (function.setCall index { call with pc := .checking })
  | .checking =>
      some (function.setCall index
        (if function.threadWasAborted then { call with pc := .ended, outcome := some none }
          else { call with pc := .returning }))
  | .returning =>
      some (function.setCall index
        { call with pc := .ended, outcome := some (some function.result) })
  | .ended => none

def workerStep (function : AsyncFunction P R) (index : Nat) (worker : Worker P R)
    (outcome : Option R) : Option (AsyncFunction P R) :=
  match worker.pc with
  | .created => none
  | .loading =>
      some (function.setWorker index
        { worker with pc := .executing, params := function.localParams })
  | .executing =>
      match outcome with
      | some value =>
          some { function.setWorker index
              { worker with pc := .finishing, outcome := some (some value) } with
            result := value }
      | none => some (function.setWorker index
          { worker with pc := .aborting, outcome := some none })
  | .aborting =>
      some { function.setWorker index { worker with pc := .finishing } with
        threadWasAborted := true }
  | .finishing =>
      some { function.setWorker index { worker with pc := .ended } with
        threadIsRunning := false }
  | .ended => none

def step (function : AsyncFunction P R) : FunctionEvent P R → Option (AsyncFunction P R)
  | .call params =>
      some { function with
        calls := function.calls ++ [{ params := params, pc := .storing, outcome := none }] }
  | .caller index => (function.calls[index]?).bind fun call => function.callerStep index call
  | .worker index outcome =>
      (function.workers[index]?).bind fun worker => function.workerStep index worker outcome

end AsyncFunction

-- What the thread has done, as its caller can see it when it has told that it ended.
def Worker.Done (worker : Worker P R) (function : AsyncFunction P R)
    (call : Invocation P R) : Prop :=
  worker.params = some call.params ∧
    ((worker.outcome = some none ∧ function.threadWasAborted = true) ∨
      (worker.outcome = some (some function.result) ∧ function.threadWasAborted = false))

def Worker.At (worker : Worker P R) (function : AsyncFunction P R) (call : Invocation P R) :
    Prop :=
  match worker.pc with
  | .created => False
  | .loading =>
      function.threadIsRunning = true ∧ function.threadWasAborted = false ∧
        function.localParams = some call.params
  | .executing =>
      function.threadIsRunning = true ∧ function.threadWasAborted = false ∧
        worker.params = some call.params
  | .aborting =>
      function.threadIsRunning = true ∧ worker.params = some call.params ∧
        worker.outcome = some none
  | .finishing => function.threadIsRunning = true ∧ worker.Done function call
  | .ended => function.threadIsRunning = false ∧ worker.Done function call

def Invocation.Current (call : Invocation P R) (function : AsyncFunction P R) (index : Nat) :
    Prop :=
  match call.pc with
  | .storing => function.workers.length = index
  | .clearing => function.workers.length = index ∧ function.localParams = some call.params
  | .creating =>
      function.workers.length = index ∧ function.localParams = some call.params ∧
        function.threadWasAborted = false
  | .marking | .starting =>
      function.workers.length = index + 1 ∧ function.localParams = some call.params ∧
        function.threadWasAborted = false ∧ function.myThread = some index ∧
        (call.pc = .starting → function.threadIsRunning = true) ∧
        ∃ worker, function.workers[index]? = some worker ∧ worker.pc = .created
  | .spinning =>
      function.workers.length = index + 1 ∧
        ∃ worker, function.workers[index]? = some worker ∧ worker.At function call
  | .checking =>
      function.workers.length = index + 1 ∧
        ∃ worker, function.workers[index]? = some worker ∧ worker.pc = .ended ∧
          worker.Done function call
  | .returning =>
      function.workers.length = index + 1 ∧
        ∃ worker, function.workers[index]? = some worker ∧ worker.pc = .ended ∧
          worker.params = some call.params ∧ worker.outcome = some (some function.result)
  | .ended => function.workers.length = index + 1

-- The thread that was made for a call has ended with what the call has returned.
def Invocation.Own (call : Invocation P R) (function : AsyncFunction P R) (index : Nat) : Prop :=
  ∃ worker, function.workers[index]? = some worker ∧ worker.pc = .ended ∧
    worker.params = some call.params ∧ worker.outcome = call.outcome ∧
    call.outcome.isSome = true

structure AsyncFunction.Serial (function : AsyncFunction P R) : Prop where
  older : ∀ (index : Nat) (call : Invocation P R), function.calls[index]? = some call →
    index + 1 < function.calls.length → call.pc = .ended
  own : ∀ (index : Nat) (call : Invocation P R), function.calls[index]? = some call →
    call.pc = .ended → call.Own function index
  current : ∀ (index : Nat) (call : Invocation P R), function.calls[index]? = some call →
    index + 1 = function.calls.length → call.Current function index
  none : function.calls = [] → function.workers = []

namespace AsyncFunction

theorem lookup_set {α : Type} {values : List α} {index : Nat} {value : α}
    (found : values[index]? = some value) (value' : α) (other : Nat) :
    (values.set index value')[other]? = if index = other then some value' else values[other]? := by
  obtain ⟨inside, -⟩ := List.getElem?_eq_some_iff.1 found
  simp only [List.getElem?_set, inside, if_true]

theorem Serial.advance {function next : AsyncFunction P R} (serial : Serial function)
    {index : Nat} (last : index + 1 = function.calls.length) (call' : Invocation P R)
    (length : next.calls.length = function.calls.length)
    (calls : ∀ other, next.calls[other]? =
      if index = other then some call' else function.calls[other]?)
    (workers : ∀ other, other < index → next.workers[other]? = function.workers[other]?)
    (own : call'.pc = .ended → call'.Own next index) (current : call'.Current next index) :
    Serial next where
  older other there held before := by
    rw [length] at before
    rw [calls, if_neg (by omega)] at held
    exact serial.older other there held before
  own other there held ended := by
    rw [calls] at held
    split at held
    next here =>
      subst here
      obtain rfl := Option.some.inj held
      exact own ended
    next elsewhere =>
      obtain ⟨inside, -⟩ := List.getElem?_eq_some_iff.1 held
      obtain ⟨worker, there', rest⟩ := serial.own other there held ended
      exact ⟨worker, by rw [workers other (by omega)]; exact there', rest⟩
  current other there held final := by
    rw [length] at final
    rw [calls] at held
    obtain rfl : index = other := by omega
    rw [if_pos rfl] at held
    obtain rfl := Option.some.inj held
    exact current
  none nothing := by
    rw [nothing, List.length_nil] at length
    omega

theorem callerStep_serial {function next : AsyncFunction P R} {index : Nat}
    {call : Invocation P R} (serial : Serial function)
    (found : function.calls[index]? = some call)
    (taken : function.callerStep index call = some next) : Serial next := by
  obtain ⟨inside, -⟩ := List.getElem?_eq_some_iff.1 found
  have last : index + 1 = function.calls.length := by
    by_cases before : index + 1 < function.calls.length
    · have ended := serial.older index call found before
      simp [callerStep, ended] at taken
    · omega
  have current := serial.current index call found last
  have same (call' : Invocation P R) (other : Nat) :
      (function.setCall index call').calls[other]? =
        if index = other then some call' else function.calls[other]? :=
    lookup_set found call' other
  have length (call' : Invocation P R) :
      (function.setCall index call').calls.length = function.calls.length := by
    simp [setCall]
  cases pc : call.pc with
  | storing =>
    simp only [Invocation.Current, pc] at current
    simp only [callerStep, pc, Option.some.injEq] at taken
    subst taken
    exact serial.advance last { call with pc := .clearing } (length _) (same _)
      (fun _ _ => rfl) (by simp) ⟨current, rfl⟩
  | clearing =>
    simp only [Invocation.Current, pc] at current
    simp only [callerStep, pc, Option.some.injEq] at taken
    subst taken
    exact serial.advance last { call with pc := .creating } (length _) (same _)
      (fun _ _ => rfl) (by simp) ⟨current.1, current.2, rfl⟩
  | creating =>
    simp only [Invocation.Current, pc] at current
    obtain ⟨count, stored, calm⟩ := current
    simp only [callerStep, pc, Option.some.injEq] at taken
    subst taken
    refine serial.advance last { call with pc := .marking } (length _) (same _)
      (fun other before => ?_) (by simp) ⟨by simp [count], stored, calm,
        by simp [count], by simp, { pc := .created, params := none, outcome := none },
        by simp [← count], rfl⟩
    exact List.getElem?_append_left (by omega)
  | marking =>
    simp only [Invocation.Current, pc] at current
    obtain ⟨count, stored, calm, mine, -, worker, held, created⟩ := current
    simp only [callerStep, pc, Option.some.injEq] at taken
    subst taken
    exact serial.advance last { call with pc := .starting } (length _) (same _)
      (fun _ _ => rfl) (by simp) ⟨count, stored, calm, mine, fun _ => rfl, worker, held, created⟩
  | starting =>
    simp only [Invocation.Current, pc] at current
    obtain ⟨count, stored, calm, mine, running, worker, held, created⟩ := current
    simp only [callerStep, pc, mine, held, Option.bind_some, Option.map_some, created, if_true,
      Option.some.injEq] at taken
    subst taken
    refine serial.advance last { call with pc := .spinning } (length _) (same _)
      (fun other before => ?_) (by simp) ⟨by simp [setCall, setWorker, count],
        { worker with pc := .loading }, ?_, running trivial, calm, stored⟩
    · exact (lookup_set held _ other).trans (if_neg (by omega))
    · exact (lookup_set held _ index).trans (if_pos rfl)
  | spinning =>
    simp only [Invocation.Current, pc] at current
    obtain ⟨count, worker, held, there⟩ := current
    simp only [callerStep, pc] at taken
    split at taken
    next => exact absurd taken (by simp)
    next stopped =>
      obtain rfl := Option.some.inj taken
      refine serial.advance last { call with pc := .checking } (length _) (same _)
        (fun _ _ => rfl) (by simp) ⟨count, worker, held, ?_⟩
      cases now : worker.pc with
      | ended =>
        simp only [Worker.At, now] at there
        exact ⟨rfl, there.2⟩
      | created | loading | executing | aborting | finishing =>
        simp [Worker.At, now, stopped] at there
  | checking =>
    simp only [Invocation.Current, pc] at current
    obtain ⟨count, worker, held, ended, params, done⟩ := current
    simp only [callerStep, pc, Option.some.injEq] at taken
    subst taken
    rcases done with ⟨outcome, aborted⟩ | ⟨outcome, fine⟩
    · simp only [aborted, if_true]
      exact serial.advance last { call with pc := .ended, outcome := some none } (length _)
        (same _) (fun _ _ => rfl) (fun _ => ⟨worker, held, ended, params, outcome, rfl⟩) count
    · simp only [fine, Bool.false_eq_true, if_false]
      exact serial.advance last { call with pc := .returning } (length _) (same _)
        (fun _ _ => rfl) (by simp) ⟨count, worker, held, ended, params, outcome⟩
  | returning =>
    simp only [Invocation.Current, pc] at current
    obtain ⟨count, worker, held, ended, params, outcome⟩ := current
    simp only [callerStep, pc, Option.some.injEq] at taken
    subst taken
    exact serial.advance last
      { call with pc := .ended, outcome := some (some function.result) } (length _) (same _)
      (fun _ _ => rfl) (fun _ => ⟨worker, held, ended, params, outcome, rfl⟩) count
  | ended => simp [callerStep, pc] at taken

-- A thread that has started and not ended is the one of the last call, which waits for it.
theorem worker_current {function : AsyncFunction P R} (serial : Serial function) {index : Nat}
    {worker : Worker P R} (held : function.workers[index]? = some worker)
    (started : worker.pc ≠ .created) (running : worker.pc ≠ .ended) :
    ∃ call, function.calls[index]? = some call ∧ index + 1 = function.calls.length ∧
      call.pc = .spinning ∧ function.workers.length = index + 1 ∧ worker.At function call := by
  obtain ⟨inside, -⟩ := List.getElem?_eq_some_iff.1 held
  have some' : function.calls ≠ [] := by
    intro nothing
    simp [serial.none nothing] at inside
  have positive := List.length_pos_iff.2 some'
  have young : function.calls.length ≤ index + 1 := by
    by_contra older
    obtain ⟨call, found⟩ : ∃ call, function.calls[index]? = some call :=
      ⟨_, List.getElem?_eq_getElem (by omega)⟩
    have ended := serial.older index call found (by omega)
    obtain ⟨other, also, stopped, -⟩ := serial.own index call found ended
    exact running (Option.some.inj (held.symm.trans also) ▸ stopped)
  obtain ⟨place, last⟩ : ∃ place, place + 1 = function.calls.length :=
    ⟨function.calls.length - 1, by omega⟩
  obtain ⟨call, found⟩ : ∃ call, function.calls[place]? = some call :=
    ⟨_, List.getElem?_eq_getElem (by omega)⟩
  have current := serial.current place call found last
  have same {other : Worker P R} (count : function.workers.length = place + 1)
      (also : function.workers[place]? = some other) : index = place ∧ worker = other := by
    obtain rfl : index = place := by omega
    exact ⟨rfl, Option.some.inj (held.symm.trans also)⟩
  cases pc : call.pc with
  | storing =>
    simp only [Invocation.Current, pc] at current
    omega
  | clearing | creating =>
    simp only [Invocation.Current, pc] at current
    omega
  | marking | starting =>
    simp only [Invocation.Current, pc] at current
    obtain ⟨count, -, -, -, -, other, also, created⟩ := current
    exact absurd ((same count also).2 ▸ created) started
  | spinning =>
    simp only [Invocation.Current, pc] at current
    obtain ⟨count, other, also, there⟩ := current
    obtain ⟨rfl, rfl⟩ := same count also
    exact ⟨call, found, last, pc, count, there⟩
  | checking | returning =>
    simp only [Invocation.Current, pc] at current
    obtain ⟨count, other, also, stopped, -⟩ := current
    exact absurd ((same count also).2 ▸ stopped) running
  | ended =>
    simp only [Invocation.Current, pc] at current
    obtain ⟨other, also, stopped, -⟩ := serial.own place call found pc
    exact absurd ((same current also).2 ▸ stopped) running

theorem workerStep_serial {function next : AsyncFunction P R} {index : Nat}
    {worker : Worker P R} {outcome : Option R} (serial : Serial function)
    (held : function.workers[index]? = some worker)
    (taken : function.workerStep index worker outcome = some next) : Serial next := by
  have started : worker.pc ≠ .created := fun created => by simp [workerStep, created] at taken
  have running : worker.pc ≠ .ended := fun ended => by simp [workerStep, ended] at taken
  obtain ⟨call, found, last, spinning, count, there⟩ :=
    worker_current serial held started running
  have kept (other : Nat) : function.calls[other]? =
      if index = other then some call else function.calls[other]? := by
    split
    next here => rw [← here, found]
    next => rfl
  have elsewhere (worker' : Worker P R) (other : Nat) (before : other < index) :
      (function.setWorker index worker').workers[other]? = function.workers[other]? :=
    (lookup_set held worker' other).trans (if_neg (by omega))
  have placed (worker' : Worker P R) :
      (function.setWorker index worker').workers[index]? = some worker' :=
    (lookup_set held worker' index).trans (if_pos rfl)
  have length (worker' : Worker P R) :
      (function.setWorker index worker').workers.length = index + 1 := by
    simp [setWorker, count]
  have waits : call.pc ≠ .ended := by simp [spinning]
  cases pc : worker.pc with
  | created => exact absurd pc started
  | ended => exact absurd pc running
  | loading =>
    simp only [Worker.At, pc] at there
    simp only [workerStep, pc, Option.some.injEq] at taken
    subst taken
    refine serial.advance last call rfl kept (elsewhere _) (fun ended => absurd ended waits) ?_
    simp only [Invocation.Current, spinning]
    exact ⟨length _, _, placed _, there⟩
  | executing =>
    simp only [Worker.At, pc] at there
    obtain ⟨runs, calm, params⟩ := there
    cases outcome with
    | some value =>
      simp only [workerStep, pc, Option.some.injEq] at taken
      subst taken
      refine serial.advance last call rfl kept (elsewhere _) (fun ended => absurd ended waits) ?_
      simp only [Invocation.Current, spinning]
      exact ⟨length _, _, placed _, runs, params, .inr ⟨rfl, calm⟩⟩
    | none =>
      simp only [workerStep, pc, Option.some.injEq] at taken
      subst taken
      refine serial.advance last call rfl kept (elsewhere _) (fun ended => absurd ended waits) ?_
      simp only [Invocation.Current, spinning]
      exact ⟨length _, _, placed _, runs, params, rfl⟩
  | aborting =>
    simp only [Worker.At, pc] at there
    obtain ⟨runs, params, thrown⟩ := there
    simp only [workerStep, pc, Option.some.injEq] at taken
    subst taken
    refine serial.advance last call rfl kept (elsewhere _) (fun ended => absurd ended waits) ?_
    simp only [Invocation.Current, spinning]
    exact ⟨length _, _, placed _, runs, params, .inl ⟨thrown, rfl⟩⟩
  | finishing =>
    simp only [Worker.At, pc] at there
    obtain ⟨-, done⟩ := there
    simp only [workerStep, pc, Option.some.injEq] at taken
    subst taken
    refine serial.advance last call rfl kept (elsewhere _) (fun ended => absurd ended waits) ?_
    simp only [Invocation.Current, spinning]
    exact ⟨length _, _, placed _, rfl, done⟩

-- No call is under way when another one begins.
def Apart (function : AsyncFunction P R) (event : FunctionEvent P R) : Prop :=
  ∀ params, event = .call params → ∀ call ∈ function.calls, call.pc = .ended

theorem call_serial {function : AsyncFunction P R} (serial : Serial function) (params : P)
    (apart : ∀ call ∈ function.calls, call.pc = .ended) :
    Serial { function with
      calls := function.calls ++ [{ params := params, pc := .storing, outcome := none }] } := by
  have lookup (index : Nat) (call : Invocation P R)
      (held : (function.calls ++ [{ params := params, pc := .storing, outcome := none }])[index]? =
        some call) :
      function.calls[index]? = some call ∨ (index = function.calls.length ∧
        call = { params := params, pc := .storing, outcome := none }) := by
    by_cases inside : index < function.calls.length
    · rw [List.getElem?_append_left inside] at held
      exact .inl held
    · rw [List.getElem?_append_right (by omega), List.getElem?_singleton] at held
      split at held
      · exact .inr ⟨by omega, (Option.some.inj held).symm⟩
      · exact absurd held (by simp)
  have threads : function.workers.length = function.calls.length := by
    cases calls : function.calls.length with
    | zero => rw [serial.none (List.length_eq_zero_iff.1 calls), List.length_nil]
    | succ place =>
      obtain ⟨call, found⟩ : ∃ call, function.calls[place]? = some call :=
        ⟨_, List.getElem?_eq_getElem (by omega)⟩
      have current := serial.current place call found calls.symm
      simpa only [Invocation.Current, apart call (List.mem_of_getElem? found)] using current
  constructor
  case older =>
    intro index call held before
    rcases lookup index call held with old | ⟨rfl, -⟩
    · exact apart call (List.mem_of_getElem? old)
    · simp at before
  case own =>
    intro index call held ended
    rcases lookup index call held with old | ⟨-, rfl⟩
    · exact serial.own index call old ended
    · exact absurd ended (by simp)
  case current =>
    intro index call held last
    rcases lookup index call held with old | ⟨rfl, rfl⟩
    · obtain ⟨inside, -⟩ := List.getElem?_eq_some_iff.1 old
      simp at last
      omega
    · exact threads
  case none => exact fun nothing => absurd nothing (by simp)

theorem step_serial (function : AsyncFunction P R) (event : FunctionEvent P R)
    (next : AsyncFunction P R) (serial : Serial function) (apart : Apart function event)
    (taken : step function event = some next) : Serial next := by
  cases event with
  | call params =>
    obtain rfl := Option.some.inj taken
    exact call_serial serial params (apart params rfl)
  | caller index =>
    simp only [step, Option.bind_eq_some_iff] at taken
    obtain ⟨call, found, moved⟩ := taken
    exact callerStep_serial serial found moved
  | worker index outcome =>
    simp only [step, Option.bind_eq_some_iff] at taken
    obtain ⟨worker, held, moved⟩ := taken
    exact workerStep_serial serial held moved

theorem initial_serial (null : R) : Serial (initial null : AsyncFunction P R) where
  older := by simp [initial]
  own := by simp [initial]
  current := by simp [initial]
  none _ := rfl

/-- As long as no call begins while another is under way, every call that has ended returned what
`execute` gave for its own parameters, or threw because it did. -/
theorem returns_own_result (null : R) (events : List (FunctionEvent P R))
    (final : AsyncFunction P R) (reached : Runs.run step (initial null) events = some final)
    (apart : Runs.Along step Apart (initial null) events) (index : Nat)
    (call : Invocation P R) (found : final.calls[index]? = some call) (ended : call.pc = .ended) :
    ∃ worker, final.workers[index]? = some worker ∧ worker.pc = .ended ∧
      worker.params = some call.params ∧ worker.outcome = call.outcome := by
  have serial := Runs.along_invariant step Apart Serial step_serial events (initial null) final
    (initial_serial null) apart reached
  obtain ⟨worker, held, stopped, params, outcome, -⟩ := serial.own index call found ended
  exact ⟨worker, held, stopped, params, outcome⟩

theorem along_apart (function : AsyncFunction P R) (events : List (FunctionEvent P R))
    (steps : ∀ params, FunctionEvent.call params ∉ events) :
    Runs.Along step Apart function events := by
  induction events generalizing function with
  | nil => trivial
  | cons event rest ih =>
    refine ⟨fun params same => absurd (same ▸ List.mem_cons_self) (steps params), ?_⟩
    exact fun next _ => ih next fun params member => steps params (List.mem_cons_of_mem _ member)

-- The second call begins when the first has returned.
theorem returns_own_result_seven :
    let first : List (FunctionEvent Nat Nat) :=
      List.replicate 5 (.caller 0) ++ List.replicate 3 (.worker 0 (some 7)) ++
        List.replicate 3 (.caller 0)
    let second : List (FunctionEvent Nat Nat) :=
      List.replicate 5 (.caller 1) ++ List.replicate 4 (.worker 1 none) ++
        List.replicate 2 (.caller 1)
    ∃ final, Runs.run step (initial 0) ((.call 5 :: first) ++ .call 6 :: second) = some final ∧
      (∃ worker, final.workers[0]? = some worker ∧ worker.params = some 5 ∧
        worker.outcome = some (some 7)) ∧
      ∃ worker, final.workers[1]? = some worker ∧ worker.params = some 6 ∧
        worker.outcome = some none := by
  intro first second
  have half : (Runs.run step (initial 0) (.call 5 :: first)).map AsyncFunction.calls =
      some [⟨5, .ended, some (some 7)⟩] := by decide +kernel
  have whole : (Runs.run step (initial 0) ((.call 5 :: first) ++ .call 6 :: second)).map
      AsyncFunction.calls = some [⟨5, .ended, some (some 7)⟩, ⟨6, .ended, some none⟩] := by
    decide +kernel
  obtain ⟨middle, early, ended⟩ := Option.map_eq_some_iff.1 half
  obtain ⟨final, run, calls⟩ := Option.map_eq_some_iff.1 whole
  have apart : Runs.Along step Apart (initial 0) ((.call 5 :: first) ++ .call 6 :: second) := by
    refine Runs.along_append step Apart (initial 0) middle _ _ early ?_ ?_
    · exact ⟨fun _ _ call member => by simp [initial] at member,
        fun next _ => along_apart next first (by simp [first])⟩
    · refine ⟨fun _ _ call member => ?_, fun next _ => along_apart next second (by simp [second])⟩
      rw [ended, List.mem_singleton] at member
      rw [member]
  refine ⟨final, run, ?_, ?_⟩
  · obtain ⟨worker, held, -, params, outcome⟩ :=
      returns_own_result 0 _ final run apart 0 ⟨5, .ended, some (some 7)⟩ (by rw [calls]; rfl) rfl
    exact ⟨worker, held, params, outcome⟩
  · obtain ⟨worker, held, -, params, outcome⟩ :=
      returns_own_result 0 _ final run apart 1 ⟨6, .ended, some none⟩ (by rw [calls]; rfl) rfl
    exact ⟨worker, held, params, outcome⟩

end AsyncFunction

end EspDrone.UdpXmitter

import EspDrone.UdpXmitter.Xmit

set_option autoImplicit false

namespace EspDrone.UdpXmitter

variable {P R : Type}

namespace AsyncFunction

-- What a statement of a call leaves of the calls and of the threads that have ended.
structure Kept (function next : AsyncFunction P R) : Prop where
  calls : ∀ (index : Nat) (call : Invocation P R), function.calls[index]? = some call →
    ∃ call', next.calls[index]? = some call' ∧ call'.params = call.params
  ended : ∀ (index : Nat) (call : Invocation P R), function.calls[index]? = some call →
    call.pc = .ended → next.calls[index]? = some call
  length : function.calls.length ≤ next.calls.length
  workers : ∀ (index : Nat) (worker : Worker P R), function.workers[index]? = some worker →
    worker.pc = .ended → next.workers[index]? = some worker

theorem Kept.refl {function : AsyncFunction P R} : Kept function function :=
  ⟨fun _ call found => ⟨call, found, rfl⟩, fun _ _ found _ => found, Nat.le_refl _,
    fun _ _ held _ => held⟩

theorem setCall_kept {function next : AsyncFunction P R} {index : Nat} {call : Invocation P R}
    (found : function.calls[index]? = some call) (running : call.pc ≠ .ended)
    (call' : Invocation P R) (params : call'.params = call.params)
    (calls : next.calls = function.calls.set index call')
    (workers : ∀ (other : Nat) (worker : Worker P R), function.workers[other]? = some worker →
      worker.pc = .ended → next.workers[other]? = some worker) : Kept function next where
  calls other there held := by
    rw [calls, lookup_set found]
    by_cases here : index = other
    · subst here
      obtain rfl := Option.some.inj (found.symm.trans held)
      exact ⟨call', if_pos rfl, params⟩
    · exact ⟨there, by rw [if_neg here]; exact held, rfl⟩
  ended other there held ended := by
    have apart : index ≠ other := by
      rintro rfl
      obtain rfl := Option.some.inj (found.symm.trans held)
      exact running ended
    rw [calls, lookup_set found, if_neg apart]
    exact held
  length := by rw [calls, List.length_set]
  workers := workers

theorem callerStep_kept {function next : AsyncFunction P R} {index : Nat}
    {call : Invocation P R} (found : function.calls[index]? = some call)
    (taken : function.callerStep index call = some next) : Kept function next := by
  have running : call.pc ≠ .ended := fun ended => by simp [callerStep, ended] at taken
  cases pc : call.pc with
  | storing =>
    simp only [callerStep, pc, Option.some.injEq] at taken
    subst taken
    exact setCall_kept found running { call with pc := .clearing } rfl rfl fun _ _ held _ => held
  | clearing =>
    simp only [callerStep, pc, Option.some.injEq] at taken
    subst taken
    exact setCall_kept found running { call with pc := .creating } rfl rfl fun _ _ held _ => held
  | creating =>
    simp only [callerStep, pc, Option.some.injEq] at taken
    subst taken
    refine setCall_kept found running { call with pc := .marking } rfl rfl
      fun other worker held _ => ?_
    obtain ⟨inside, -⟩ := List.getElem?_eq_some_iff.1 held
    exact (List.getElem?_append_left inside).trans held
  | marking =>
    simp only [callerStep, pc, Option.some.injEq] at taken
    subst taken
    exact setCall_kept found running { call with pc := .starting } rfl rfl fun _ _ held _ => held
  | starting =>
    simp only [callerStep, pc, Option.bind_eq_some_iff, Option.map_eq_some_iff] at taken
    obtain ⟨thread, -, worker, held, rfl⟩ := taken
    by_cases created : worker.pc = .created
    · rw [if_pos created]
      refine setCall_kept found running { call with pc := .spinning } rfl rfl
        fun other there also ended => ?_
      refine (lookup_set held _ other).trans ?_
      have apart : thread ≠ other := by
        rintro rfl
        obtain rfl := Option.some.inj (held.symm.trans also)
        exact absurd (created.symm.trans ended) (by simp)
      rw [if_neg apart]
      exact also
    · rw [if_neg created]
      exact setCall_kept found running { call with pc := .ended, outcome := some none } rfl rfl
        fun _ _ held _ => held
  | spinning =>
    simp only [callerStep, pc] at taken
    split at taken
    next => exact absurd taken (by simp)
    next =>
      obtain rfl := Option.some.inj taken
      exact setCall_kept found running { call with pc := .checking } rfl rfl fun _ _ held _ => held
  | checking =>
    simp only [callerStep, pc, Option.some.injEq] at taken
    subst taken
    refine setCall_kept found running _ ?_ rfl fun _ _ held _ => held
    split <;> rfl
  | returning =>
    simp only [callerStep, pc, Option.some.injEq] at taken
    subst taken
    exact setCall_kept found running
      { call with pc := .ended, outcome := some (some function.result) } rfl rfl
      fun _ _ held _ => held
  | ended => exact absurd pc running

theorem callerStep_length {function next : AsyncFunction P R} {index : Nat}
    {call : Invocation P R} (taken : function.callerStep index call = some next) :
    next.calls.length = function.calls.length := by
  cases pc : call.pc with
  | storing | clearing | creating | marking | checking | returning =>
    simp only [callerStep, pc, Option.some.injEq] at taken
    subst taken
    exact List.length_set
  | starting =>
    simp only [callerStep, pc, Option.bind_eq_some_iff, Option.map_eq_some_iff] at taken
    obtain ⟨thread, -, worker, -, rfl⟩ := taken
    split <;> exact List.length_set
  | spinning =>
    simp only [callerStep, pc] at taken
    split at taken
    next => exact absurd taken (by simp)
    next => exact Option.some.inj taken ▸ List.length_set
  | ended => simp [callerStep, pc] at taken

theorem setWorker_kept {function next : AsyncFunction P R} {index : Nat} {worker : Worker P R}
    (held : function.workers[index]? = some worker) (running : worker.pc ≠ .ended)
    (worker' : Worker P R) (calls : next.calls = function.calls)
    (workers : next.workers = function.workers.set index worker') : Kept function next where
  calls other there found := ⟨there, by rw [calls]; exact found, rfl⟩
  ended other there found _ := by rw [calls]; exact found
  length := by rw [calls]
  workers other there also ended := by
    have apart : index ≠ other := by
      rintro rfl
      obtain rfl := Option.some.inj (held.symm.trans also)
      exact running ended
    rw [workers, lookup_set held, if_neg apart]
    exact also

theorem workerStep_calls {function next : AsyncFunction P R} {index : Nat} {worker : Worker P R}
    {outcome : Option R} (taken : function.workerStep index worker outcome = some next) :
    next.calls = function.calls := by
  cases pc : worker.pc with
  | created | ended => simp [workerStep, pc] at taken
  | loading | aborting | finishing =>
    simp only [workerStep, pc, Option.some.injEq] at taken
    exact taken ▸ rfl
  | executing =>
    cases outcome <;> simp only [workerStep, pc, Option.some.injEq] at taken <;>
      exact taken ▸ rfl

theorem workerStep_kept {function next : AsyncFunction P R} {index : Nat} {worker : Worker P R}
    {outcome : Option R} (held : function.workers[index]? = some worker)
    (taken : function.workerStep index worker outcome = some next) : Kept function next := by
  have running : worker.pc ≠ .ended := fun ended => by simp [workerStep, ended] at taken
  cases pc : worker.pc with
  | created => simp [workerStep, pc] at taken
  | loading | aborting | finishing =>
    simp only [workerStep, pc, Option.some.injEq] at taken
    subst taken
    exact setWorker_kept held running _ rfl rfl
  | executing =>
    cases outcome with
    | some value =>
      simp only [workerStep, pc, Option.some.injEq] at taken
      subst taken
      exact setWorker_kept held running _ rfl rfl
    | none =>
      simp only [workerStep, pc, Option.some.injEq] at taken
      subst taken
      exact setWorker_kept held running _ rfl rfl
  | ended => exact absurd pc running

theorem call_kept {function next : AsyncFunction P R} {params : P}
    (taken : function.step (.call params) = some next) : Kept function next := by
  obtain rfl := Option.some.inj taken
  have kept {index : Nat} {call : Invocation P R} (found : function.calls[index]? = some call)
      (new : Invocation P R) : (function.calls ++ [new])[index]? = some call := by
    obtain ⟨inside, -⟩ := List.getElem?_eq_some_iff.1 found
    exact (List.getElem?_append_left inside).trans found
  exact ⟨fun index call found => ⟨call, kept found _, rfl⟩, fun index call found _ => kept found _,
    by simp, fun _ _ held _ => held⟩

theorem step_kept {function next : AsyncFunction P R} (event : FunctionEvent P R)
    (taken : function.step event = some next) : Kept function next := by
  cases event with
  | call params => exact call_kept taken
  | caller index =>
    simp only [step, Option.bind_eq_some_iff] at taken
    obtain ⟨call, found, moved⟩ := taken
    exact callerStep_kept found moved
  | worker index outcome =>
    simp only [step, Option.bind_eq_some_iff] at taken
    obtain ⟨worker, held, moved⟩ := taken
    exact workerStep_kept held moved

def Caught (function : AsyncFunction P R) : Prop :=
  ∀ worker ∈ function.workers, worker.outcome ≠ some none

theorem callerStep_caught {function next : AsyncFunction P R} {index : Nat}
    {call : Invocation P R} (caught : Caught function)
    (taken : function.callerStep index call = some next) : Caught next := by
  cases pc : call.pc with
  | storing | clearing | marking | checking | returning =>
    simp only [callerStep, pc, Option.some.injEq] at taken
    subst taken
    exact caught
  | creating =>
    simp only [callerStep, pc, Option.some.injEq] at taken
    subst taken
    intro worker member
    rcases List.mem_append.1 member with old | new
    · exact caught worker old
    · obtain rfl := List.mem_singleton.1 new
      simp
  | starting =>
    simp only [callerStep, pc, Option.bind_eq_some_iff, Option.map_eq_some_iff] at taken
    obtain ⟨thread, -, worker, held, rfl⟩ := taken
    split
    · intro other member
      rcases List.mem_or_eq_of_mem_set member with old | rfl
      · exact caught other old
      · exact caught worker (List.mem_of_getElem? held)
    · exact caught
  | spinning =>
    simp only [callerStep, pc] at taken
    split at taken
    next => exact absurd taken (by simp)
    next => exact Option.some.inj taken ▸ caught
  | ended => simp [callerStep, pc] at taken

theorem workerStep_caught {function next : AsyncFunction P R} {index : Nat}
    {worker : Worker P R} {value : R} (caught : Caught function)
    (held : function.workers[index]? = some worker)
    (taken : function.workerStep index worker (some value) = some next) : Caught next := by
  have before := caught worker (List.mem_of_getElem? held)
  have changed (worker' : Worker P R) (kept : worker'.outcome ≠ some none) :
      ∀ other ∈ function.workers.set index worker', other.outcome ≠ some none := by
    intro other member
    rcases List.mem_or_eq_of_mem_set member with old | rfl
    · exact caught other old
    · exact kept
  cases pc : worker.pc with
  | created | ended => simp [workerStep, pc] at taken
  | loading | aborting | finishing =>
    simp only [workerStep, pc, Option.some.injEq] at taken
    subst taken
    exact changed _ before
  | executing =>
    simp only [workerStep, pc, Option.some.injEq] at taken
    subst taken
    exact changed _ (by simp)

end AsyncFunction

theorem Request.bytes_error {digit : Char → Nat → Option Nat}
    {encode : List Char → List UInt8} {request : Request} {code : ErrorCode}
    (failed : request.bytes digit encode = .error code) :
    code = .binaryConversionFailed ∨ code = .invalidDataType := by
  unfold bytes at failed
  split at failed
  next =>
    split at failed
    next =>
      split at failed
      next => exact absurd failed (by simp)
      next => exact .inl (Except.error.inj failed).symm
    next => exact absurd failed (by simp)
  next => exact absurd failed (by simp)
  next => exact .inr (Except.error.inj failed).symm

def XmitPc.owns : XmitPc → Bool
  | .preparing | .looking _ _ | .resolving _ _ | .locking _ | .reporting | .ended => false
  | _ => true

abbrev Resolver := AsyncFunction (List Char) (Option UInt32)

-- Where the address comes from: the property, or what the call of the resolver returned.
def Request.Addressed (request : Request) (resolver : Resolver) (lookup : Option Nat)
    (address : UInt32) : Prop :=
  match request.target with
  | .remoteIP known => known = some address
  | .host name => ∃ call invocation, lookup = some call ∧
      resolver.calls[call]? = some invocation ∧ invocation.pc = .ended ∧
      invocation.params = name ∧ invocation.outcome = some (some (some address))

-- The calls of a shared object that its clients remember: each client has its own.
structure Numbered {α : Type} (key : α → Option Nat) (count : Nat) (clients : List α) : Prop where
  fresh : ∀ (index : Nat) (client : α) (number : Nat), clients[index]? = some client →
    key client = some number → number < count
  apart : ∀ (index other : Nat) (client there : α) (number : Nat),
    clients[index]? = some client → clients[other]? = some there →
    key client = some number → key there = some number → index = other

namespace Numbered

variable {α : Type} {key : α → Option Nat} {count more : Nat} {clients : List α}

theorem grow (numbered : Numbered key count clients) (grown : count ≤ more) :
    Numbered key more clients where
  fresh index client number found known :=
    Nat.lt_of_lt_of_le (numbered.fresh index client number found known) grown
  apart := numbered.apart

theorem set (numbered : Numbered key count clients) {index : Nat} {client : α}
    (found : clients[index]? = some client) (client' : α) (grown : count ≤ more)
    (named : ∀ number, key client' = some number →
      key client = some number ∨ (number = count ∧ count < more)) :
    Numbered key more (clients.set index client') := by
  have before {other number : Nat} {there : α}
      (held : (clients.set index client')[other]? = some there)
      (known : key there = some number) :
      (∃ old, clients[other]? = some old ∧ key old = some number) ∨
        (index = other ∧ number = count ∧ count < more) := by
    rw [AsyncFunction.lookup_set found] at held
    split at held
    next here =>
      obtain rfl := Option.some.inj held
      rcases named number known with old | new
      · exact .inl ⟨client, here ▸ found, old⟩
      · exact .inr ⟨here, new⟩
    next => exact .inl ⟨there, held, known⟩
  constructor
  case fresh =>
    intro other there number held known
    rcases before held known with ⟨old, also, same⟩ | ⟨-, rfl, new⟩
    · exact Nat.lt_of_lt_of_le (numbered.fresh other old number also same) grown
    · exact new
  case apart =>
    intro one two first second number held held' known known'
    rcases before held known with ⟨old, there, same⟩ | ⟨here, new, -⟩
    · rcases before held' known' with ⟨old', there', same'⟩ | ⟨-, new', -⟩
      · exact numbered.apart one two old old' number there there' same same'
      · exact absurd (numbered.fresh one old number there same) (by omega)
    · rcases before held' known' with ⟨old', there', same'⟩ | ⟨here', -, -⟩
      · exact absurd (numbered.fresh two old' number there' same') (by omega)
      · exact here.symm.trans here'

theorem append (numbered : Numbered key count clients) (client : α) (new : key client = none) :
    Numbered key count (clients ++ [client]) := by
  have before {index number : Nat} {there : α}
      (held : (clients ++ [client])[index]? = some there) (known : key there = some number) :
      clients[index]? = some there := by
    by_cases inside : index < clients.length
    · rwa [List.getElem?_append_left inside] at held
    · rw [List.getElem?_append_right (by omega), List.getElem?_singleton] at held
      split at held
      · obtain rfl := Option.some.inj held
        exact absurd (new.symm.trans known) (by simp)
      · exact absurd held (by simp)
  constructor
  case fresh =>
    intro index there number held known
    exact numbered.fresh index there number (before held known) known
  case apart =>
    intro one two first second number held held' known known'
    exact numbered.apart one two first second number (before held known) (before held' known')
      known known'

end Numbered

section

variable (digit : Char → Nat → Option Nat) (encode : List Char → List UInt8)

structure Request.Made (request : Request) (resolver : Resolver) (lookup : Option Nat)
    (datagram : Datagram) : Prop where
  data : request.bytes digit encode = .ok datagram.data
  port : datagram.port = request.remotePort
  address : request.Addressed resolver lookup datagram.address

-- The code after doXmit, or of what went wrong before it.
def Xmit.Told (xmit : Xmit) (resolver : Resolver) (function : AsyncFunction Datagram Bool) :
    Prop :=
  match xmit.call with
  | none => xmit.code ≠ some .noError
  | some (call, datagram) =>
      xmit.request.Made digit encode resolver xmit.lookup datagram ∧
        ∃ worker failed, function.workers[call]? = some worker ∧ worker.pc = .ended ∧
          worker.params = some datagram ∧ worker.outcome = some (some failed) ∧
          xmit.code = some (if failed then .xmitError else .noError)

def Xmit.Sound (xmit : Xmit) (resolver : Resolver) (function : AsyncFunction Datagram Bool) :
    Prop :=
  match xmit.pc with
  | .preparing =>
      xmit.lookup = none ∧ xmit.call = none ∧ xmit.socket = none ∧ xmit.code = none ∧
        xmit.reports = []
  | .looking data name =>
      xmit.request.bytes digit encode = .ok data ∧ xmit.request.target = .host name ∧
        xmit.lookup = none ∧ xmit.call = none ∧ xmit.socket = none ∧ xmit.code = none ∧
        xmit.reports = []
  | .resolving data lookup =>
      xmit.request.bytes digit encode = .ok data ∧ xmit.lookup = some lookup ∧
        (∃ name invocation, xmit.request.target = .host name ∧
          resolver.calls[lookup]? = some invocation ∧ invocation.params = name) ∧
        xmit.call = none ∧ xmit.socket = none ∧ xmit.code = none ∧ xmit.reports = []
  | .locking datagram | .building datagram | .binding datagram =>
      xmit.request.Made digit encode resolver xmit.lookup datagram ∧ xmit.call = none ∧
        xmit.socket = none
  | .calling datagram =>
      xmit.request.Made digit encode resolver xmit.lookup datagram ∧ xmit.call = none
  | .waiting datagram call =>
      xmit.request.Made digit encode resolver xmit.lookup datagram ∧
        xmit.call = some (call, datagram) ∧
        ∃ invocation, function.calls[call]? = some invocation ∧ invocation.params = datagram
  | .closing datagram call failed =>
      xmit.request.Made digit encode resolver xmit.lookup datagram ∧
        xmit.call = some (call, datagram) ∧
        ∃ worker, function.workers[call]? = some worker ∧ worker.pc = .ended ∧
          worker.params = some datagram ∧ worker.outcome = some (some failed)
  | .unlocking | .reporting =>
      xmit.Told digit encode resolver function ∧
        (xmit.socket = some true ↔
          xmit.code = some .invalidLocalPort ∧ xmit.socket.isSome = true) ∧
        xmit.code.isSome = true
  | .ended =>
      xmit.Told digit encode resolver function ∧
        (xmit.socket = some true ↔
          xmit.code = some .invalidLocalPort ∧ xmit.socket.isSome = true) ∧
        xmit.reports = match xmit.code with
          | some code => if xmit.request.async then afterXmit code else []
          | none => []

def Xmit.task (xmit : Xmit) : Option Nat := xmit.call.map Prod.fst

structure Sender.Exclusive (sender : Sender) : Prop where
  serial : sender.xmitTask.Serial
  caught : sender.xmitTask.Caught
  sound : ∀ (index : Nat) (xmit : Xmit), sender.xmits[index]? = some xmit →
    xmit.Sound digit encode sender.getIpFromHostName sender.xmitTask
  owner : ∀ (index : Nat) (xmit : Xmit), sender.xmits[index]? = some xmit →
    xmit.pc.owns = true → sender.lock = some (.xmit index)
  running : (∀ call ∈ sender.xmitTask.calls, call.pc = .ended) ∨
    ∃ (index : Nat) (xmit : Xmit) (datagram : Datagram) (call : Nat),
      sender.xmits[index]? = some xmit ∧ xmit.pc = .waiting datagram call ∧
        call + 1 = sender.xmitTask.calls.length
  tasks : Numbered Xmit.task sender.xmitTask.calls.length sender.xmits
  lookups : Numbered Xmit.lookup sender.getIpFromHostName.calls.length sender.xmits
  free : ∀ index, sender.lock = some (.xmit index) →
    ∃ xmit, sender.xmits[index]? = some xmit ∧ xmit.pc.owns = true

variable {digit encode}

theorem Request.Made.kept {request : Request} {resolver next : Resolver} {lookup : Option Nat}
    {datagram : Datagram} (made : request.Made digit encode resolver lookup datagram)
    (kept : resolver.Kept next) : request.Made digit encode next lookup datagram := by
  refine ⟨made.data, made.port, ?_⟩
  have address := made.address
  unfold Addressed at address ⊢
  split at address
  next known => exact address
  next name =>
    obtain ⟨call, invocation, remembered, found, ended, rest⟩ := address
    exact ⟨call, invocation, remembered, kept.ended call invocation found ended, ended, rest⟩

theorem Xmit.Told.kept {xmit : Xmit} {resolver resolver' : Resolver}
    {function next : AsyncFunction Datagram Bool}
    (told : xmit.Told digit encode resolver function) (looked : resolver.Kept resolver')
    (kept : function.Kept next) : xmit.Told digit encode resolver' next := by
  unfold Told at told ⊢
  split at told
  next => exact told
  next call datagram _ =>
    obtain ⟨made, worker, failed, held, ended, rest⟩ := told
    exact ⟨made.kept looked, worker, failed, kept.workers call worker held ended, ended, rest⟩

theorem Xmit.Sound.kept {xmit : Xmit} {resolver resolver' : Resolver}
    {function next : AsyncFunction Datagram Bool}
    (sound : xmit.Sound digit encode resolver function) (looked : resolver.Kept resolver')
    (kept : function.Kept next) : xmit.Sound digit encode resolver' next := by
  unfold Sound at sound ⊢
  cases pc : xmit.pc with
  | preparing | looking =>
    simp only [pc] at sound ⊢
    exact sound
  | resolving data lookup =>
    simp only [pc] at sound ⊢
    obtain ⟨data, remembered, ⟨name, invocation, target, found, params⟩, rest⟩ := sound
    obtain ⟨invocation', found', params'⟩ := looked.calls lookup invocation found
    exact ⟨data, remembered, ⟨name, invocation', target, found', params'.trans params⟩, rest⟩
  | locking | building | binding | calling =>
    simp only [pc] at sound ⊢
    exact ⟨sound.1.kept looked, sound.2⟩
  | waiting datagram call =>
    simp only [pc] at sound ⊢
    obtain ⟨made, called, invocation, found, params⟩ := sound
    obtain ⟨invocation', found', params'⟩ := kept.calls call invocation found
    exact ⟨made.kept looked, called, invocation', found', params'.trans params⟩
  | closing datagram call failed =>
    simp only [pc] at sound ⊢
    obtain ⟨made, called, worker, held, ended, rest⟩ := sound
    exact ⟨made.kept looked, called, worker, kept.workers call worker held ended, ended, rest⟩
  | unlocking | reporting | ended =>
    simp only [pc] at sound ⊢
    exact ⟨sound.1.kept looked kept, sound.2⟩

namespace Sender

open AsyncFunction

theorem Exclusive.advance {sender next : Sender} (exclusive : Exclusive digit encode sender)
    {index : Nat} {xmit : Xmit} (found : sender.xmits[index]? = some xmit) (xmit' : Xmit)
    (xmits : next.xmits = sender.xmits.set index xmit') (serial : next.xmitTask.Serial)
    (caught : next.xmitTask.Caught)
    (looked : sender.getIpFromHostName.Kept next.getIpFromHostName)
    (kept : sender.xmitTask.Kept next.xmitTask)
    (sound : xmit'.Sound digit encode next.getIpFromHostName next.xmitTask)
    (mine : xmit'.pc.owns = true → next.lock = some (.xmit index))
    (others : ∀ other, index ≠ other →
      (next.lock = some (.xmit other) ↔ sender.lock = some (.xmit other)))
    (free : next.lock = some (.xmit index) → xmit'.pc.owns = true)
    (task : ∀ number, xmit'.task = some number → xmit.task = some number ∨
      (number = sender.xmitTask.calls.length ∧
        sender.xmitTask.calls.length < next.xmitTask.calls.length))
    (lookup : ∀ number, xmit'.lookup = some number → xmit.lookup = some number ∨
      (number = sender.getIpFromHostName.calls.length ∧
        sender.getIpFromHostName.calls.length < next.getIpFromHostName.calls.length))
    (running : (∀ call ∈ next.xmitTask.calls, call.pc = .ended) ∨
      ∃ (other : Nat) (there : Xmit) (datagram : Datagram) (call : Nat),
        next.xmits[other]? = some there ∧ there.pc = .waiting datagram call ∧
          call + 1 = next.xmitTask.calls.length) : Exclusive digit encode next := by
  have place (other : Nat) : next.xmits[other]? =
      if index = other then some xmit' else sender.xmits[other]? := by
    rw [xmits]
    exact lookup_set found xmit' other
  constructor
  case serial => exact serial
  case caught => exact caught
  case sound =>
    intro other there held
    rw [place] at held
    split at held
    · obtain rfl := Option.some.inj held
      exact sound
    · exact (exclusive.sound other there held).kept looked kept
  case owner =>
    intro other there held owns
    rw [place] at held
    split at held
    next here =>
      obtain rfl := Option.some.inj held
      exact here ▸ mine owns
    next elsewhere => exact (others other elsewhere).2 (exclusive.owner other there held owns)
  case running => exact running
  case tasks =>
    rw [xmits]
    exact exclusive.tasks.set found xmit' kept.length task
  case lookups =>
    rw [xmits]
    exact exclusive.lookups.set found xmit' looked.length lookup
  case free =>
    intro other locked
    by_cases here : index = other
    · subst here
      exact ⟨xmit', by rw [place, if_pos rfl], free locked⟩
    · obtain ⟨there, held, owns⟩ := exclusive.free other ((others other here).1 locked)
      exact ⟨there, by rw [place, if_neg here]; exact held, owns⟩

theorem Exclusive.running_set {sender : Sender} (exclusive : Exclusive digit encode sender)
    {index : Nat} {xmit : Xmit} (found : sender.xmits[index]? = some xmit) (xmit' : Xmit)
    (waits : ∀ datagram call, xmit.pc = .waiting datagram call →
      ∀ call ∈ sender.xmitTask.calls, call.pc = .ended) :
    (∀ call ∈ sender.xmitTask.calls, call.pc = .ended) ∨
      ∃ (other : Nat) (there : Xmit) (datagram : Datagram) (call : Nat),
        (sender.xmits.set index xmit')[other]? = some there ∧ there.pc = .waiting datagram call ∧
          call + 1 = sender.xmitTask.calls.length := by
  rcases exclusive.running with ended | ⟨other, there, datagram, call', held, waiting, last⟩
  · exact .inl ended
  · by_cases here : index = other
    · subst here
      obtain rfl := Option.some.inj (found.symm.trans held)
      exact .inl (waits datagram call' waiting)
    · refine .inr ⟨other, there, datagram, call', ?_, waiting, last⟩
      exact (lookup_set found xmit' other).trans ((if_neg here).trans held)

theorem Exclusive.mine {sender : Sender} (exclusive : Exclusive digit encode sender)
    {index : Nat} {xmit : Xmit} (found : sender.xmits[index]? = some xmit)
    (locked : sender.lock = some (.xmit index)) : xmit.pc.owns = true := by
  obtain ⟨there, held, owns⟩ := exclusive.free index locked
  obtain rfl := Option.some.inj (found.symm.trans held)
  exact owns

-- A step within a function that neither takes nor gives back the lock.
theorem Exclusive.go {sender : Sender} (exclusive : Exclusive digit encode sender) {index : Nat}
    {xmit : Xmit} (found : sender.xmits[index]? = some xmit) (xmit' : Xmit)
    (sound : xmit'.Sound digit encode sender.getIpFromHostName sender.xmitTask)
    (owns : xmit'.pc.owns = xmit.pc.owns) (call : xmit'.call = xmit.call)
    (lookup : xmit'.lookup = xmit.lookup)
    (waits : ∀ datagram call, xmit.pc = .waiting datagram call →
      ∀ call ∈ sender.xmitTask.calls, call.pc = .ended) :
    Exclusive digit encode (sender.setXmit index xmit') := by
  refine exclusive.advance found xmit' rfl exclusive.serial exclusive.caught .refl .refl sound
    (fun mine => exclusive.owner index xmit found (owns ▸ mine)) (fun _ _ => Iff.rfl) ?_ ?_ ?_
    (exclusive.running_set found xmit' waits)
  · intro locked
    rw [owns]
    exact exclusive.mine found locked
  · intro number known
    exact .inl (by rw [← known, Xmit.task, Xmit.task, call])
  · intro number known
    exact .inl (lookup ▸ known)

-- Only the holder of the lock has a call under way.
theorem Exclusive.settled {sender : Sender} (exclusive : Exclusive digit encode sender)
    {index : Nat} {xmit : Xmit} (found : sender.xmits[index]? = some xmit)
    (owns : xmit.pc.owns = true)
    (done : ∀ datagram call invocation, xmit.pc = .waiting datagram call →
      sender.xmitTask.calls[call]? = some invocation → invocation.pc = .ended) :
    ∀ call ∈ sender.xmitTask.calls, call.pc = .ended := by
  rcases exclusive.running with ended | ⟨other, there, datagram, call, held, waiting, last⟩
  · exact ended
  · have locked := exclusive.owner index xmit found owns
    have locked' := exclusive.owner other there held (by rw [waiting]; rfl)
    obtain rfl := Holder.xmit.inj (Option.some.inj (locked.symm.trans locked'))
    obtain rfl := Option.some.inj (found.symm.trans held)
    intro one member
    obtain ⟨place, inside, here⟩ := List.mem_iff_getElem.1 member
    have held' : sender.xmitTask.calls[place]? = some one := by
      rw [List.getElem?_eq_getElem inside, here]
    by_cases older : place + 1 < sender.xmitTask.calls.length
    · exact exclusive.serial.older place one held' older
    · obtain rfl : place = call := by omega
      exact done datagram place one waiting held'

theorem lookup_exclusive {sender : Sender} (exclusive : Exclusive digit encode sender)
    {index : Nat} {xmit : Xmit} (found : sender.xmits[index]? = some xmit) {data : List UInt8}
    {name : List Char} (pc : xmit.pc = .looking data name) (resolver : Resolver)
    (moved : sender.getIpFromHostName.step (.call name) = some resolver) :
    Exclusive digit encode { sender.setXmit index { xmit with
      pc := .resolving data sender.getIpFromHostName.calls.length
      lookup := some sender.getIpFromHostName.calls.length } with
      getIpFromHostName := resolver } := by
  have sound := exclusive.sound index xmit found
  simp only [Xmit.Sound, pc] at sound
  obtain ⟨bytes, target, -, rest⟩ := sound
  have kept := call_kept moved
  obtain rfl := Option.some.inj moved
  let resolving : Xmit := { xmit with
    pc := .resolving data sender.getIpFromHostName.calls.length
    lookup := some sender.getIpFromHostName.calls.length }
  refine exclusive.advance found resolving rfl exclusive.serial exclusive.caught kept .refl
    ⟨bytes, rfl, ⟨name, { params := name, pc := .storing, outcome := none }, target, by simp, rfl⟩,
      rest⟩
    (fun never => absurd never (by simp [resolving, XmitPc.owns])) (fun _ _ => Iff.rfl) ?_
    (fun _ known => .inl known) ?_
    (exclusive.running_set found resolving fun _ _ never => by simp [pc] at never)
  · intro locked
    have owns := exclusive.mine found locked
    simp [pc, XmitPc.owns] at owns
  · intro number known
    exact .inr ⟨(Option.some.inj known).symm, by simp⟩

theorem call_exclusive {sender : Sender} (exclusive : Exclusive digit encode sender)
    {index : Nat} {xmit : Xmit} (found : sender.xmits[index]? = some xmit) (datagram : Datagram)
    (pc : xmit.pc = .calling datagram) (function : AsyncFunction Datagram Bool)
    (moved : sender.xmitTask.step (.call datagram) = some function) :
    Exclusive digit encode { sender.setXmit index { xmit with
      pc := .waiting datagram sender.xmitTask.calls.length
      call := some (sender.xmitTask.calls.length, datagram) } with xmitTask := function } := by
  have sound := exclusive.sound index xmit found
  simp only [Xmit.Sound, pc] at sound
  have ended := exclusive.settled found (by rw [pc]; rfl)
    (fun _ _ _ waiting => by simp [pc] at waiting)
  have kept := call_kept moved
  have serial := step_serial sender.xmitTask (.call datagram) function exclusive.serial
    (fun _ _ => ended) moved
  obtain rfl := Option.some.inj moved
  let waiting : Xmit := { xmit with
    pc := .waiting datagram sender.xmitTask.calls.length
    call := some (sender.xmitTask.calls.length, datagram) }
  refine exclusive.advance found waiting rfl serial exclusive.caught .refl kept
    ⟨sound.1, rfl, { params := datagram, pc := .storing, outcome := none }, by simp, rfl⟩
    (fun _ => exclusive.owner index xmit found (by rw [pc]; rfl)) (fun _ _ => Iff.rfl)
    (fun _ => rfl) ?_ (fun _ known => .inl known) ?_
  · intro number known
    exact .inr ⟨(Option.some.inj known).symm, by simp⟩
  · refine .inr ⟨index, waiting, datagram, sender.xmitTask.calls.length, ?_, rfl, by simp⟩
    exact (lookup_set found waiting index).trans (if_pos rfl)

theorem resolver_exclusive {sender : Sender} (exclusive : Exclusive digit encode sender)
    (resolver : Resolver) (looked : sender.getIpFromHostName.Kept resolver) :
    Exclusive digit encode { sender with getIpFromHostName := resolver } where
  serial := exclusive.serial
  caught := exclusive.caught
  sound index xmit found := (exclusive.sound index xmit found).kept looked .refl
  owner := exclusive.owner
  running := exclusive.running
  tasks := exclusive.tasks
  lookups := exclusive.lookups.grow looked.length
  free := exclusive.free

theorem task_exclusive {sender : Sender} (exclusive : Exclusive digit encode sender)
    (function : AsyncFunction Datagram Bool) (serial : function.Serial)
    (caught : function.Caught) (kept : sender.xmitTask.Kept function)
    (length : function.calls.length = sender.xmitTask.calls.length)
    (under : (∀ call ∈ sender.xmitTask.calls, call.pc = .ended) →
      ∀ call ∈ function.calls, call.pc = .ended) :
    Exclusive digit encode { sender with xmitTask := function } where
  serial := serial
  caught := caught
  sound index xmit found := (exclusive.sound index xmit found).kept .refl kept
  owner := exclusive.owner
  running := by
    rcases exclusive.running with ended | ⟨index, xmit, datagram, last, found, waiting, count⟩
    · exact .inl (under ended)
    · exact .inr ⟨index, xmit, datagram, last, found, waiting, count.trans length.symm⟩
  tasks := exclusive.tasks.grow kept.length
  lookups := exclusive.lookups
  free := exclusive.free

theorem execute_exclusive {sender : Sender} (exclusive : Exclusive digit encode sender)
    {call : Nat} {invocation : Invocation Datagram Bool}
    (held : sender.xmitTask.calls[call]? = some invocation)
    (function : AsyncFunction Datagram Bool)
    (moved : sender.xmitTask.callerStep call invocation = some function) :
    Exclusive digit encode { sender with xmitTask := function } := by
  have running : invocation.pc ≠ .ended := fun ended => by simp [callerStep, ended] at moved
  exact task_exclusive exclusive function (callerStep_serial exclusive.serial held moved)
    (callerStep_caught exclusive.caught moved) (callerStep_kept held moved)
    (callerStep_length moved)
    fun ended => absurd (ended invocation (List.mem_of_getElem? held)) running

theorem worker_exclusive {sender : Sender} (exclusive : Exclusive digit encode sender)
    {index : Nat} {worker : Worker Datagram Bool} {failed : Bool}
    (held : sender.xmitTask.workers[index]? = some worker)
    (function : AsyncFunction Datagram Bool)
    (moved : sender.xmitTask.workerStep index worker (some failed) = some function) :
    Exclusive digit encode { sender with xmitTask := function } := by
  have calls := workerStep_calls moved
  exact task_exclusive exclusive function (workerStep_serial exclusive.serial held moved)
    (workerStep_caught exclusive.caught held moved) (workerStep_kept held moved)
    (congrArg List.length calls) (fun ended => calls ▸ ended)

theorem ended_outcome {sender : Sender} (exclusive : Exclusive digit encode sender) {call : Nat}
    {invocation : Invocation Datagram Bool}
    (held : sender.xmitTask.calls[call]? = some invocation) (ended : invocation.pc = .ended) :
    ∃ worker failed, sender.xmitTask.workers[call]? = some worker ∧ worker.pc = .ended ∧
      worker.params = some invocation.params ∧ worker.outcome = some (some failed) ∧
      invocation.outcome = some (some failed) := by
  obtain ⟨worker, there, stopped, params, outcome, some'⟩ :=
    exclusive.serial.own call invocation held ended
  have fine := exclusive.caught worker (List.mem_of_getElem? there)
  obtain ⟨result, told⟩ := Option.isSome_iff_exists.1 some'
  cases result with
  | none => exact absurd (outcome.trans told) fine
  | some failed =>
    exact ⟨worker, failed, there, stopped, params, outcome.trans told, told⟩

theorem prepare_exclusive {sender next : Sender} (exclusive : Exclusive digit encode sender)
    {index : Nat} {xmit : Xmit} {opening : Opening} (found : sender.xmits[index]? = some xmit)
    (pc : xmit.pc = .preparing)
    (taken : sender.xmitStep digit encode index xmit opening = some next) :
    Exclusive digit encode next := by
  have sound := exclusive.sound index xmit found
  simp only [Xmit.Sound, pc] at sound
  simp only [xmitStep, pc, Option.some.injEq] at taken
  subst taken
  obtain ⟨lookup, call, socket, code, reports⟩ := sound
  have waits (datagram : Datagram) (number : Nat) (never : xmit.pc = .waiting datagram number) :
      ∀ call ∈ sender.xmitTask.calls, call.pc = .ended := by simp [pc] at never
  cases bytes : xmit.request.bytes digit encode with
  | error code =>
    refine exclusive.go found _ ?_ (by rw [pc]; rfl) rfl rfl waits
    rcases Request.bytes_error bytes with rfl | rfl <;>
      simp [Xmit.Sound, Xmit.Told, call, socket]
  | ok data =>
    cases target : xmit.request.target with
    | host name =>
      exact exclusive.go found { xmit with pc := .looking data name }
        ⟨bytes, target, lookup, call, socket, code, reports⟩ (by rw [pc]; rfl) rfl rfl waits
    | remoteIP address =>
      cases address with
      | none =>
        refine exclusive.go found
          { xmit with pc := .reporting, code := some .unknownRemoteHost } ?_ (by rw [pc]; rfl)
          rfl rfl waits
        simp [Xmit.Sound, Xmit.Told, call, socket]
      | some address =>
        refine exclusive.go found
          { xmit with pc := .locking ⟨data, address, xmit.request.remotePort⟩ } ?_
          (by rw [pc]; rfl) rfl rfl waits
        exact ⟨⟨bytes, rfl, by simp [Request.Addressed, target]⟩, call, socket⟩

theorem resolve_exclusive {sender next : Sender} (exclusive : Exclusive digit encode sender)
    {index : Nat} {xmit : Xmit} {opening : Opening} (found : sender.xmits[index]? = some xmit)
    {data : List UInt8} {lookup : Nat} (pc : xmit.pc = .resolving data lookup)
    (taken : sender.xmitStep digit encode index xmit opening = some next) :
    Exclusive digit encode next := by
  have sound := exclusive.sound index xmit found
  simp only [Xmit.Sound, pc] at sound
  simp only [xmitStep, pc, Option.bind_eq_some_iff] at taken
  obtain ⟨bytes, remembered, ⟨name, invocation', target, held', params⟩, call, socket, code,
    reports⟩ := sound
  obtain ⟨invocation, held, moved⟩ := taken
  obtain rfl := Option.some.inj (held.symm.trans held')
  have waits (datagram : Datagram) (number : Nat) (never : xmit.pc = .waiting datagram number) :
      ∀ call ∈ sender.xmitTask.calls, call.pc = .ended := by simp [pc] at never
  by_cases ended : invocation.pc = .ended
  · rw [if_pos ended, Option.some.injEq] at moved
    subst moved
    have thrown : Exclusive digit encode (sender.setXmit index { xmit with pc := .ended }) := by
      refine exclusive.go found _ ?_ (by rw [pc]; rfl) rfl rfl waits
      simp [Xmit.Sound, Xmit.Told, call, socket, code, reports]
    rcases told : invocation.outcome with _ | _ | _ | address
    · exact thrown
    · exact thrown
    · refine exclusive.go found
        { xmit with pc := .reporting, code := some .unknownRemoteHost } ?_ (by rw [pc]; rfl)
        rfl rfl waits
      simp [Xmit.Sound, Xmit.Told, call, socket]
    · refine exclusive.go found
        { xmit with pc := .locking ⟨data, address, xmit.request.remotePort⟩ } ?_
        (by rw [pc]; rfl) rfl rfl waits
      refine ⟨⟨bytes, rfl, ?_⟩, call, socket⟩
      simp only [Request.Addressed, target]
      exact ⟨lookup, invocation, remembered, held, ended, params, told⟩
  · rw [if_neg ended, Option.map_eq_some_iff] at moved
    obtain ⟨resolver, moved, rfl⟩ := moved
    exact resolver_exclusive exclusive resolver (callerStep_kept held moved)

theorem bind_exclusive {sender next : Sender} (exclusive : Exclusive digit encode sender)
    {index : Nat} {xmit : Xmit} {opening : Opening} (found : sender.xmits[index]? = some xmit)
    {datagram : Datagram} (pc : xmit.pc = .binding datagram)
    (taken : sender.xmitStep digit encode index xmit opening = some next) :
    Exclusive digit encode next := by
  have sound := exclusive.sound index xmit found
  simp only [Xmit.Sound, pc] at sound
  simp only [xmitStep, pc, Option.some.injEq] at taken
  subst taken
  have unbound : Exclusive digit encode (sender.setXmit index
      { xmit with
        pc := .unlocking, socket := some true, code := some .invalidLocalPort }) := by
    refine exclusive.go found _ ?_ (by rw [pc]; rfl) rfl rfl
      (fun _ _ never => by simp [pc] at never)
    simp [Xmit.Sound, Xmit.Told, sound.2.1]
  cases opening with
  | refused =>
    refine exclusive.go found { xmit with pc := .unlocking, code := some .invalidLocalPort } ?_
      (by rw [pc]; rfl) rfl rfl (fun _ _ never => by simp [pc] at never)
    simp [Xmit.Sound, Xmit.Told, sound.2.1, sound.2.2]
  | unbound => exact unbound
  | bound =>
    simp only
    split
    · exact exclusive.go found { xmit with pc := .calling datagram, socket := some true }
        ⟨sound.1, sound.2.1⟩ (by rw [pc]; rfl) rfl rfl
        (fun _ _ never => by simp [pc] at never)
    · exact unbound

theorem wait_exclusive {sender next : Sender} (exclusive : Exclusive digit encode sender)
    {index : Nat} {xmit : Xmit} {opening : Opening} (found : sender.xmits[index]? = some xmit)
    {datagram : Datagram} {call : Nat} (pc : xmit.pc = .waiting datagram call)
    (taken : sender.xmitStep digit encode index xmit opening = some next) :
    Exclusive digit encode next := by
  have sound := exclusive.sound index xmit found
  simp only [Xmit.Sound, pc] at sound
  simp only [xmitStep, pc, Option.bind_eq_some_iff] at taken
  obtain ⟨invocation, held, moved⟩ := taken
  by_cases ended : invocation.pc = .ended
  · rw [if_pos ended] at moved
    obtain ⟨worker, failed, there, stopped, params, outcome, told⟩ :=
      ended_outcome exclusive held ended
    simp only [told, Option.some.injEq] at moved
    subst moved
    obtain ⟨made, called, invocation', held', same⟩ := sound
    obtain rfl := Option.some.inj (held.symm.trans held')
    refine exclusive.go found { xmit with pc := .closing datagram call failed }
      ⟨made, called, worker, there, stopped, same ▸ params, outcome⟩ (by rw [pc]; rfl) rfl rfl ?_
    intro datagram' call' waiting
    refine exclusive.settled found (by rw [pc]; rfl) ?_
    intro datagram'' call'' other waiting' held''
    obtain ⟨-, rfl⟩ := XmitPc.waiting.inj (pc.symm.trans waiting')
    exact Option.some.inj (held.symm.trans held'') ▸ ended
  · rw [if_neg ended, Option.map_eq_some_iff] at moved
    obtain ⟨function, moved, rfl⟩ := moved
    exact execute_exclusive exclusive held function moved

theorem xmitStep_exclusive {sender next : Sender} (exclusive : Exclusive digit encode sender)
    {index : Nat} {xmit : Xmit} {opening : Opening} (found : sender.xmits[index]? = some xmit)
    (taken : sender.xmitStep digit encode index xmit opening = some next) :
    Exclusive digit encode next := by
  have sound := exclusive.sound index xmit found
  cases pc : xmit.pc with
  | preparing => exact prepare_exclusive exclusive found pc taken
  | looking data name =>
    simp only [xmitStep, pc, Option.map_eq_some_iff] at taken
    obtain ⟨resolver, moved, rfl⟩ := taken
    exact lookup_exclusive exclusive found pc resolver moved
  | resolving data lookup => exact resolve_exclusive exclusive found pc taken
  | locking datagram =>
    simp only [Xmit.Sound, pc] at sound
    simp only [xmitStep, pc] at taken
    split at taken
    next => exact absurd taken (by simp)
    next free =>
      obtain rfl := Option.some.inj taken
      have unlocked : sender.lock = none := by simpa using free
      refine exclusive.advance found { xmit with pc := .building datagram } rfl exclusive.serial
        exclusive.caught .refl .refl sound
        (fun _ => rfl) ?_ (fun _ => rfl) (fun _ known => .inl known) (fun _ known => .inl known)
        (exclusive.running_set found _ fun _ _ never => by simp [pc] at never)
      intro other elsewhere
      simp [unlocked, elsewhere]
  | building datagram =>
    simp only [Xmit.Sound, pc] at sound
    simp only [xmitStep, pc, Option.some.injEq] at taken
    subst taken
    by_cases fits : portOk datagram.port = true
    · rw [if_pos fits]
      exact exclusive.go found { xmit with pc := .binding datagram }
        sound (by rw [pc]; rfl) rfl rfl
        (fun _ _ never => by simp [pc] at never)
    · rw [if_neg fits]
      refine exclusive.go found { xmit with pc := .unlocking, code := some .invalidRemotePort } ?_
        (by rw [pc]; rfl) rfl rfl (fun _ _ never => by simp [pc] at never)
      simp [Xmit.Sound, Xmit.Told, sound.2.1, sound.2.2]
  | binding datagram => exact bind_exclusive exclusive found pc taken
  | calling datagram =>
    simp only [xmitStep, pc, Option.map_eq_some_iff] at taken
    obtain ⟨function, moved, rfl⟩ := taken
    exact call_exclusive exclusive found datagram pc function moved
  | waiting datagram call => exact wait_exclusive exclusive found pc taken
  | closing datagram call failed =>
    simp only [Xmit.Sound, pc] at sound
    simp only [xmitStep, pc, Option.some.injEq] at taken
    subst taken
    obtain ⟨made, called, worker, there, stopped, params, outcome⟩ := sound
    refine exclusive.go found { xmit with
      pc := .unlocking
      socket := some false
      code := some (if failed then .xmitError else .noError) } ?_ (by rw [pc]; rfl) rfl rfl
      (fun _ _ never => by simp [pc] at never)
    simp only [Xmit.Sound, Xmit.Told, called]
    refine ⟨⟨made, worker, failed, there, stopped, params, outcome, rfl⟩, ?_, rfl⟩
    cases failed <;> simp
  | unlocking =>
    simp only [Xmit.Sound, pc] at sound
    simp only [xmitStep, pc, Option.some.injEq] at taken
    subst taken
    have locked := exclusive.owner index xmit found (by rw [pc]; rfl)
    simp only [sound.2.2, if_true]
    refine exclusive.advance found { xmit with pc := .reporting } rfl exclusive.serial
      exclusive.caught .refl .refl sound (by simp [XmitPc.owns]) ?_ (by simp)
      (fun _ known => .inl known) (fun _ known => .inl known) ?_
    · intro other elsewhere
      simp [locked, elsewhere]
    · exact .inl (exclusive.settled found (by rw [pc]; rfl)
        fun _ _ _ never => by simp [pc] at never)
  | reporting =>
    simp only [Xmit.Sound, pc] at sound
    simp only [xmitStep, pc, Option.map_eq_some_iff] at taken
    obtain ⟨code, told, rfl⟩ := taken
    have moved := exclusive.go found { xmit with
        pc := .ended
        reports := if xmit.request.async then afterXmit code else [] }
      ⟨sound.1, sound.2.1, by simp only [told]⟩ (by rw [pc]; rfl) rfl rfl
      (fun _ _ never => by simp [pc] at never)
    exact ⟨moved.serial, moved.caught, moved.sound, moved.owner, moved.running, moved.tasks,
      moved.lookups, moved.free⟩
  | ended => simp [xmitStep, pc] at taken

theorem request_exclusive {sender : Sender} (exclusive : Exclusive digit encode sender)
    (request : Request) :
    Exclusive digit encode { sender with xmits := sender.xmits ++ [enter request] } := by
  have lookup {index : Nat} {xmit : Xmit}
      (held : (sender.xmits ++ [enter request])[index]? = some xmit) :
      sender.xmits[index]? = some xmit ∨ xmit = enter request := by
    by_cases inside : index < sender.xmits.length
    · rw [List.getElem?_append_left inside] at held
      exact .inl held
    · rw [List.getElem?_append_right (by omega), List.getElem?_singleton] at held
      split at held
      · exact .inr (Option.some.inj held).symm
      · exact absurd held (by simp)
  have kept {index : Nat} {xmit : Xmit} (held : sender.xmits[index]? = some xmit) :
      (sender.xmits ++ [enter request])[index]? = some xmit := by
    obtain ⟨inside, -⟩ := List.getElem?_eq_some_iff.1 held
    exact (List.getElem?_append_left inside).trans held
  constructor
  case serial => exact exclusive.serial
  case caught => exact exclusive.caught
  case sound =>
    intro index xmit held
    rcases lookup held with old | rfl
    · exact exclusive.sound index xmit old
    · exact ⟨rfl, rfl, rfl, rfl, rfl⟩
  case owner =>
    intro index xmit held owns
    rcases lookup held with old | rfl
    · exact exclusive.owner index xmit old owns
    · simp [enter, XmitPc.owns] at owns
  case running =>
    rcases exclusive.running with ended | ⟨index, xmit, datagram, call, held, rest⟩
    · exact .inl ended
    · exact .inr ⟨index, xmit, datagram, call, kept held, rest⟩
  case tasks => exact exclusive.tasks.append (enter request) rfl
  case lookups => exact exclusive.lookups.append (enter request) rfl
  case free =>
    intro index locked
    obtain ⟨xmit, held, owns⟩ := exclusive.free index locked
    exact ⟨xmit, kept held, owns⟩

theorem relock_exclusive {sender : Sender} (exclusive : Exclusive digit encode sender)
    (lock : Option Holder) (before : ∀ index, sender.lock ≠ some (.xmit index))
    (after : ∀ index, lock ≠ some (.xmit index)) :
    Exclusive digit encode { sender with lock := lock } where
  serial := exclusive.serial
  caught := exclusive.caught
  sound := exclusive.sound
  owner index xmit held owns :=
    absurd (exclusive.owner index xmit held owns) (before index)
  running := exclusive.running
  tasks := exclusive.tasks
  lookups := exclusive.lookups
  free index locked := absurd locked (after index)

theorem step_exclusive (sender : Sender) (event : SenderEvent) (next : Sender)
    (exclusive : Exclusive digit encode sender)
    (taken : step digit encode sender event = some next) : Exclusive digit encode next := by
  cases event with
  | request request =>
    obtain rfl := Option.some.inj taken
    exact request_exclusive exclusive request
  | xmit index opening =>
    simp only [step, Option.bind_eq_some_iff] at taken
    obtain ⟨xmit, found, moved⟩ := taken
    exact xmitStep_exclusive exclusive found moved
  | resolver event =>
    simp only [step, Option.map_eq_some_iff] at taken
    obtain ⟨resolver, moved, rfl⟩ := taken
    exact resolver_exclusive exclusive resolver (step_kept event moved)
  | worker index failed =>
    simp only [step, Option.map_eq_some_iff, AsyncFunction.step, Option.bind_eq_some_iff] at taken
    obtain ⟨function, ⟨worker, held, moved⟩, rfl⟩ := taken
    exact worker_exclusive exclusive held function moved
  | lockOther =>
    simp only [step] at taken
    split at taken
    next => exact absurd taken (by simp)
    next free =>
      obtain rfl := Option.some.inj taken
      have unlocked : sender.lock = none := by simpa using free
      exact relock_exclusive exclusive _ (by simp [unlocked]) (by simp)
  | unlockOther =>
    simp only [step] at taken
    split at taken
    next locked =>
      obtain rfl := Option.some.inj taken
      exact relock_exclusive exclusive _ (by simp [locked]) (by simp)
    next => exact absurd taken (by simp)

theorem initial_exclusive : Exclusive digit encode initial where
  serial := initial_serial false
  caught := by simp [Caught, initial, AsyncFunction.initial]
  sound := by simp [initial]
  owner := by simp [initial]
  running := .inl (by simp [initial, AsyncFunction.initial])
  tasks := ⟨by simp [initial], by simp [initial]⟩
  lookups := ⟨by simp [initial], by simp [initial]⟩
  free := by simp [initial]

-- The steps that begin a call of the resolver.
def Looks (sender : Sender) : SenderEvent → Prop
  | .resolver (.call _) => True
  | .xmit index _ => ∃ xmit data name, sender.xmits[index]? = some xmit ∧
      xmit.pc = .looking data name
  | _ => False

def Alone (sender : Sender) (event : SenderEvent) : Prop :=
  sender.Looks event → ∀ call ∈ sender.getIpFromHostName.calls, call.pc = .ended

theorem xmitStep_resolver {sender next : Sender} {index : Nat} {xmit : Xmit} {opening : Opening}
    (taken : sender.xmitStep digit encode index xmit opening = some next) :
    next.getIpFromHostName = sender.getIpFromHostName ∨
      ∃ event, sender.getIpFromHostName.step event = some next.getIpFromHostName ∧
        ∀ name, event = .call name → ∃ data name, xmit.pc = .looking data name := by
  cases pc : xmit.pc with
  | looking data name =>
    simp only [xmitStep, pc, Option.map_eq_some_iff] at taken
    obtain ⟨resolver, moved, rfl⟩ := taken
    exact .inr ⟨.call name, moved, fun _ _ => ⟨data, name, rfl⟩⟩
  | resolving data lookup =>
    simp only [xmitStep, pc, Option.bind_eq_some_iff] at taken
    obtain ⟨invocation, held, moved⟩ := taken
    by_cases ended : invocation.pc = .ended
    · rw [if_pos ended, Option.some.injEq] at moved
      exact .inl (moved ▸ rfl)
    · rw [if_neg ended, Option.map_eq_some_iff] at moved
      obtain ⟨resolver, moved, rfl⟩ := moved
      refine .inr ⟨.caller lookup, ?_, fun _ never => absurd never (by simp)⟩
      simpa only [AsyncFunction.step, held, Option.bind_some] using moved
  | preparing | building | binding | closing | unlocking =>
    simp only [xmitStep, pc, Option.some.injEq] at taken
    exact .inl (taken ▸ rfl)
  | locking datagram =>
    simp only [xmitStep, pc] at taken
    split at taken
    next => exact absurd taken (by simp)
    next => exact .inl (Option.some.inj taken ▸ rfl)
  | calling datagram =>
    simp only [xmitStep, pc, Option.map_eq_some_iff] at taken
    obtain ⟨function, -, rfl⟩ := taken
    exact .inl rfl
  | waiting datagram call =>
    simp only [xmitStep, pc, Option.bind_eq_some_iff] at taken
    obtain ⟨invocation, -, moved⟩ := taken
    by_cases ended : invocation.pc = .ended
    · rw [if_pos ended, Option.some.injEq] at moved
      exact .inl (moved ▸ rfl)
    · rw [if_neg ended, Option.map_eq_some_iff] at moved
      obtain ⟨function, -, rfl⟩ := moved
      exact .inl rfl
  | reporting =>
    simp only [xmitStep, pc, Option.map_eq_some_iff] at taken
    obtain ⟨code, -, rfl⟩ := taken
    exact .inl rfl
  | ended => simp [xmitStep, pc] at taken

theorem step_alone (sender : Sender) (event : SenderEvent) (next : Sender)
    (serial : sender.getIpFromHostName.Serial) (alone : sender.Alone event)
    (taken : step digit encode sender event = some next) : next.getIpFromHostName.Serial := by
  cases event with
  | xmit index opening =>
    simp only [step, Option.bind_eq_some_iff] at taken
    obtain ⟨xmit, found, moved⟩ := taken
    rcases xmitStep_resolver moved with same | ⟨inner, stepped, looks⟩
    · exact same ▸ serial
    · refine step_serial _ inner _ serial (fun name call => ?_) stepped
      obtain ⟨data, name', pc⟩ := looks name call
      exact alone ⟨xmit, data, name', found, pc⟩
  | resolver inner =>
    simp only [step, Option.map_eq_some_iff] at taken
    obtain ⟨resolver, stepped, rfl⟩ := taken
    exact step_serial _ inner _ serial (fun name call => alone (by rw [call]; trivial)) stepped
  | request request =>
    obtain rfl := Option.some.inj taken
    exact serial
  | worker index failed =>
    simp only [step, Option.map_eq_some_iff] at taken
    obtain ⟨function, -, rfl⟩ := taken
    exact serial
  | lockOther =>
    simp only [step] at taken
    split at taken
    next => exact absurd taken (by simp)
    next => exact Option.some.inj taken ▸ serial
  | unlockOther =>
    simp only [step] at taken
    split at taken
    next => exact Option.some.inj taken ▸ serial
    next => exact absurd taken (by simp)

theorem mem_afterXmit (code : ErrorCode) :
    XmitReport.afterXmit true 0 ∈ afterXmit code ↔ code = .noError := by
  cases code <;> simp [afterXmit, ErrorCode.ordinal]

/-- However the functions, the threads and the other components interleave, an Xmit function that
has ended tells no error if and only if the datagram of its own bytes and port, to the address
that its resolver call returned, was sent without an exception by the one execution that was its
own. AfterXmit tells the same, a socket that was made stays open if and only if the local port is
at fault, and the lock does not stay with the function. As long as the resolver calls do not
overlap, the address is the one found for its own host. -/
theorem code_tells_send (digit : Char → Nat → Option Nat) (encode : List Char → List UInt8)
    (events : List SenderEvent) (sender : Sender)
    (reached : Runs.run (step digit encode) initial events = some sender) (index : Nat)
    (xmit : Xmit) (found : sender.xmits[index]? = some xmit) (ended : xmit.pc = .ended) :
    (xmit.code = some .noError ↔ ∃ datagram call worker,
      xmit.request.Made digit encode sender.getIpFromHostName xmit.lookup datagram ∧
        xmit.call = some (call, datagram) ∧ sender.xmitTask.workers[call]? = some worker ∧
        worker.params = some datagram ∧ worker.outcome = some (some false)) ∧
    (∀ other there number, sender.xmits[other]? = some there →
      (xmit.task = some number ∧ there.task = some number) ∨
        (xmit.lookup = some number ∧ there.lookup = some number) → index = other) ∧
    (xmit.request.async = true →
      (.afterXmit true 0 ∈ xmit.reports ↔ xmit.code = some .noError)) ∧
    (xmit.socket = some true ↔
      xmit.code = some .invalidLocalPort ∧ xmit.socket.isSome = true) ∧
    sender.lock ≠ some (.xmit index) ∧
    (Runs.Along (step digit encode) Alone initial events → ∀ name datagram,
      xmit.request.target = .host name →
      xmit.request.Made digit encode sender.getIpFromHostName xmit.lookup datagram →
      ∃ lookup worker, xmit.lookup = some lookup ∧
        sender.getIpFromHostName.workers[lookup]? = some worker ∧ worker.params = some name ∧
        worker.outcome = some (some (some datagram.address))) := by
  have exclusive := Runs.run_invariant (step digit encode) (Exclusive digit encode)
    step_exclusive events initial sender initial_exclusive reached
  have sound := exclusive.sound index xmit found
  simp only [Xmit.Sound, ended] at sound
  obtain ⟨told, socket, reports⟩ := sound
  refine ⟨?_, ?_, ?_, socket, ?_, ?_⟩
  · cases called : xmit.call with
    | none =>
      simp only [Xmit.Told, called] at told
      simp [told]
    | some pair =>
      obtain ⟨call, datagram⟩ := pair
      simp only [Xmit.Told, called] at told
      obtain ⟨made, worker, failed, held, -, params, outcome, code⟩ := told
      rw [code]
      constructor
      · intro fine
        cases failed with
        | true => simp at fine
        | false => exact ⟨datagram, call, worker, made, rfl, held, params, outcome⟩
      · rintro ⟨datagram', call', worker', -, same, held', -, outcome'⟩
        obtain ⟨rfl, rfl⟩ := Prod.mk.inj (Option.some.inj same)
        obtain rfl := Option.some.inj (held.symm.trans held')
        obtain rfl := Option.some.inj (Option.some.inj (outcome.symm.trans outcome'))
        rfl
  · rintro other there number held (⟨task, task'⟩ | ⟨lookup, lookup'⟩)
    · exact exclusive.tasks.apart index other xmit there number found held task task'
    · exact exclusive.lookups.apart index other xmit there number found held lookup lookup'
  · intro async
    rw [reports, async]
    cases xmit.code with
    | none => simp
    | some code => simp [mem_afterXmit]
  · intro locked
    have owns := exclusive.mine found locked
    simp [ended, XmitPc.owns] at owns
  · intro alone name datagram target made
    have serial := Runs.along_invariant (step digit encode) Alone
      (fun sender => sender.getIpFromHostName.Serial) step_alone events initial sender
      (initial_serial none) alone reached
    have address := made.address
    simp only [Request.Addressed, target] at address
    obtain ⟨lookup, invocation, remembered, held, settled, rfl, outcome⟩ := address
    obtain ⟨worker, there, -, params, same, -⟩ := serial.own lookup invocation held settled
    exact ⟨lookup, worker, remembered, there, params, same.trans outcome⟩

-- Between its lookup and its lock another component looks a host up as well.
theorem code_tells_send_to :
    let encode : List Char → List UInt8 := List.map fun c => UInt8.ofNat c.toNat
    let settings : Settings := ⟨false, none, 4210, 4211⟩
    let go (count : Nat) : List SenderEvent := List.replicate count (.xmit 0 .bound)
    let answer : SenderEvent := .resolver (.worker 0 (some (some 3232235777)))
    let events : List SenderEvent :=
      .request (settings.xmitToAsync ['d'] 4210 ['u', 'p']) :: go 7 ++ [answer, answer, answer] ++
        go 4 ++ .resolver (.call ['e']) :: go 9 ++
        [.worker 0 false, .worker 0 false, .worker 0 false] ++ go 7
    ∃ sender xmit, Runs.run (step asciiDigit encode) initial events = some sender ∧
      sender.xmits[0]? = some xmit ∧ .afterXmit true 0 ∈ xmit.reports := by
  intro encode settings go answer events
  let xmit : Xmit :=
    { request := settings.xmitToAsync ['d'] 4210 ['u', 'p'], pc := .ended, lookup := some 0
      call := some (0, ⟨[117, 112], 3232235777, 4210⟩), socket := some false
      code := some .noError, reports := [.afterXmit true 0] }
  have reached : ((Runs.run (step asciiDigit encode) initial events).bind fun sender =>
      sender.xmits[0]?) = some xmit := by decide +kernel
  obtain ⟨sender, run, held⟩ := Option.bind_eq_some_iff.1 reached
  have tells := code_tells_send asciiDigit encode events sender run 0 xmit held rfl
  exact ⟨sender, xmit, run, held, (tells.2.2.1 rfl).2 rfl⟩

end Sender

end

end EspDrone.UdpXmitter

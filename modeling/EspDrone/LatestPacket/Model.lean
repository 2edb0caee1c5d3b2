import EspDrone.Shared.Runs

set_option autoImplicit false

/-!
# Handing the latest joystick packet to the main loop

The onPacket callback and the main control loop share `latestPacket` and
`newPacketAvailable`. Each of their statements is one action; any interleaving
of the two is a run.
-/

namespace EspDrone.LatestPacket

-- `stored` is between the callback's two statements.
inductive Callback where
  | idle
  | stored
  deriving DecidableEq, Repr

-- The statement of the main loop's packet block that runs next.
inductive Consumer where
  | test
  | clear
  | use
  deriving DecidableEq, Repr

structure State (α : Type) where
  latestPacket : α
  newPacketAvailable : Bool := false
  callback : Callback := .idle
  consumer : Consumer := .test
  printed : List α := []
  deriving DecidableEq, Repr

inductive Action (α : Type) where
  | store (payload : α)
  | raise
  | test
  | clear
  | use
  deriving DecidableEq, Repr

variable {α : Type}

def Action.OfConsumer : Action α → Prop
  | .store _ | .raise => False
  | .test | .clear | .use => True

def step (s : State α) : Action α → Option (State α)
  | .store payload =>
      if s.callback = .idle then
        some { s with latestPacket := payload, callback := .stored }
      else none
  | .raise =>
      if s.callback = .stored then
        some { s with newPacketAvailable := true, callback := .idle }
      else none
  | .test =>
      if s.consumer = .test then
        some { s with consumer := if s.newPacketAvailable then .clear else .test }
      else none
  | .clear =>
      if s.consumer = .clear then
        some { s with newPacketAvailable := false, consumer := .use }
      else none
  | .use =>
      if s.consumer = .use then
        some { s with consumer := .test, printed := s.printed ++ [s.latestPacket] }
      else none

def boot (empty : α) : State α := { latestPacket := empty }

-- A run with its history: the payloads stored so far, oldest first, and for each
-- use of the buffer how many payloads had been stored by then.
structure History (α : Type) where
  state : State α
  arrived : List α := []
  used : List Nat := []
  deriving DecidableEq, Repr

namespace History

def boot (empty : α) : History α := { state := LatestPacket.boot empty }

def step (h : History α) (action : Action α) : Option (History α) :=
  (LatestPacket.step h.state action).map fun next =>
    { state := next
      arrived := match action with
        | .store payload => h.arrived ++ [payload]
        | _ => h.arrived
      used := match action with
        | .use => h.used ++ [h.arrived.length]
        | _ => h.used }

theorem step_cases {h next : History α} {action : Action α} (taken : h.step action = some next) :
    (∃ payload, action = .store payload ∧ h.state.callback = .idle ∧
      next = { h with
        state := { h.state with latestPacket := payload, callback := .stored }
        arrived := h.arrived ++ [payload] }) ∨
    (action = .raise ∧ h.state.callback = .stored ∧
      next = { h with state := { h.state with newPacketAvailable := true, callback := .idle } }) ∨
    (action = .test ∧ h.state.consumer = .test ∧
      next = { h with state :=
        { h.state with consumer := if h.state.newPacketAvailable then .clear else .test } }) ∨
    (action = .clear ∧ h.state.consumer = .clear ∧
      next = { h with state :=
        { h.state with newPacketAvailable := false, consumer := .use } }) ∨
    (action = .use ∧ h.state.consumer = .use ∧
      next = { h with
        state := { h.state with
          consumer := .test, printed := h.state.printed ++ [h.state.latestPacket] }
        used := h.used ++ [h.arrived.length] }) := by
  cases action <;>
    simp only [step, LatestPacket.step, Option.map_eq_some_iff, Option.ite_none_right_eq_some,
      Option.some.injEq] at taken <;>
    obtain ⟨_, ⟨enabled, rfl⟩, rfl⟩ := taken
  case store payload => exact .inl ⟨payload, rfl, enabled, rfl⟩
  case raise => exact .inr (.inl ⟨rfl, enabled, rfl⟩)
  case test => exact .inr (.inr (.inl ⟨rfl, enabled, rfl⟩))
  case clear => exact .inr (.inr (.inr (.inl ⟨rfl, enabled, rfl⟩)))
  case use => exact .inr (.inr (.inr (.inr ⟨rfl, enabled, rfl⟩)))

-- The payload numbered `n`, counting from one; number zero is the initial text.
def payload (empty : α) (arrived : List α) (n : Nat) : α :=
  (arrived.take n).getLast?.getD empty

structure Faithful (empty : α) (h : History α) : Prop where
  latest : h.state.latestPacket = payload empty h.arrived h.arrived.length
  printed : h.state.printed = h.used.map (payload empty h.arrived)
  bounded : ∀ n ∈ h.used, n ≤ h.arrived.length

theorem step_faithful (empty : α) {h next : History α} {action : Action α}
    (faithful : h.Faithful empty) (taken : h.step action = some next) :
    next.Faithful empty := by
  obtain ⟨latest, printed, bounded⟩ := faithful
  obtain ⟨text, rfl, -, rfl⟩ | ⟨rfl, -, rfl⟩ | ⟨rfl, -, rfl⟩ | ⟨rfl, -, rfl⟩ | ⟨rfl, -, rfl⟩ :=
    step_cases taken
  · refine ⟨by simp [payload, List.take_of_length_le], ?_, ?_⟩
    · -- A new payload does not renumber the older ones.
      have older : ∀ n ∈ h.used, payload empty h.arrived n =
          payload empty (h.arrived ++ [text]) n := by
        intro n member
        simp [payload, List.take_append_of_le_length (bounded n member)]
      simpa [printed] using older
    · intro n member
      have := bounded n member
      simp only [List.length_append, List.length_singleton]
      omega
  · exact ⟨latest, printed, bounded⟩
  · exact ⟨latest, printed, bounded⟩
  · exact ⟨latest, printed, bounded⟩
  · refine ⟨latest, by simp [printed, latest], ?_⟩
    intro n member
    rcases List.mem_append.1 member with old | now
    · exact bounded n old
    · exact Nat.le_of_eq (List.mem_singleton.1 now)

theorem run_faithful (empty : α) (schedule : List (Action α)) (h : History α)
    (reached : Runs.run step (boot empty) schedule = some h) : h.Faithful empty :=
  Runs.run_invariant step (Faithful empty) (fun _ _ _ => step_faithful empty) schedule
    (boot empty) h ⟨rfl, rfl, by simp [boot]⟩ reached

end History

end EspDrone.LatestPacket

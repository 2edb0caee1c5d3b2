import EspDrone.Gyroscope.Reader
import EspDrone.LatestPacket.Model

set_option autoImplicit false

namespace EspDrone.Flight

open MainLoop (Sketch Statics Event)

-- What loop() does next. The connection test and the gate of the main control loop touch
-- nothing that the callback writes, and are one step.
inductive Position where
  | start
  | packet
  | gyroscope
  deriving DecidableEq, Repr

structure State (α : Type) where
  lastClients : Int32 := 0
  lastConnectionTestLoop : UInt32 := 0
  -- The level of CONNECTION_LED, which setup() writes HIGH; the LED is on when it is LOW.
  connectionLed : Bool := true
  mailbox : LatestPacket.History α
  -- The static lastMainLoop of loop() is with the globals of the gyroscope.
  gyroscope : Gyroscope.Globals
  position : Position := .start
  events : List Event := []
  reports : List Gyroscope.Report := []

inductive Action (α : Type) where
  | mailbox (action : LatestPacket.Action α)
  | enter (pass : MainLoop.Pass)
  | sample (sampling : Gyroscope.Sampling)

variable {α : Type}

def State.statics (s : State α) : Statics :=
  ⟨s.lastClients, s.lastConnectionTestLoop, s.gyroscope.lastMainLoop⟩

-- Which sketches register the callback and read the mailbox.
def receives : Sketch → Bool
  | .latestPackets | .pidController => true
  | .gyroscopeReader => false

def samples : Sketch → Bool
  | .latestPackets => false
  | .pidController | .gyroscopeReader => true

def afterGate (sketch : Sketch) : Position :=
  if receives sketch then .packet else .gyroscope

def afterPacket (sketch : Sketch) : Position :=
  if samples sketch then .gyroscope else .start

def digitalWrite (level : Bool) : Event → Bool
  | .connected => false
  | .disconnected => true
  | .body _ => level

def enter (sketch : Sketch) (s : State α) (pass : MainLoop.Pass) : State α :=
  let passed := sketch.loop s.statics pass
  { s with
    lastClients := passed.1.lastClients
    lastConnectionTestLoop := passed.1.lastConnectionTestLoop
    connectionLed := passed.2.foldl digitalWrite s.connectionLed
    gyroscope := { s.gyroscope with lastMainLoop := passed.1.lastMainLoop }
    position := if (MainLoop.bodies passed.2).isEmpty then .start else afterGate sketch
    events := s.events ++ passed.2 }

@[simp] theorem enter_reports (sketch : Sketch) (s : State α) (pass : MainLoop.Pass) :
    (enter sketch s pass).reports = s.reports := rfl

def sample (s : State α) (sampling : Gyroscope.Sampling) : State α :=
  let corrected := Gyroscope.correct (Gyroscope.gyroSignals s.gyroscope sampling)
  { s with
    gyroscope := corrected
    position := .start
    reports := s.reports ++ [Gyroscope.report corrected] }

-- A statement of the packet block that leaves its consumer at the test has ended the block.
def packetStatement (sketch : Sketch) (s : State α) (mailbox : LatestPacket.History α) :
    State α :=
  { s with
    mailbox
    position := if mailbox.state.consumer = .test then afterPacket sketch else .packet }

def step (sketch : Sketch) (s : State α) : Action α → Option (State α)
  | .mailbox (.store payload) =>
      if receives sketch then
        (s.mailbox.step (.store payload)).map fun mailbox => { s with mailbox }
      else none
  | .mailbox .raise =>
      if receives sketch then (s.mailbox.step .raise).map fun mailbox => { s with mailbox }
      else none
  | .mailbox statement =>
      if s.position = .packet then (s.mailbox.step statement).map (packetStatement sketch s)
      else none
  | .enter pass => if s.position = .start then some (enter sketch s pass) else none
  | .sample sampling => if s.position = .gyroscope then some (sample s sampling) else none

def boot (empty : α) (calls : Nat → Gyroscope.Sampling) : State α where
  mailbox := .boot empty
  gyroscope := Gyroscope.setup calls

def Action.pass : Action α → List MainLoop.Pass
  | .enter pass => [pass]
  | .mailbox _ | .sample _ => []

def Action.statement : Action α → List (LatestPacket.Action α)
  | .mailbox action => [action]
  | .enter _ | .sample _ => []

def Action.sampling : Action α → List Gyroscope.Sampling
  | .sample sampling => [sampling]
  | .mailbox _ | .enter _ => []

def passes (schedule : List (Action α)) : List MainLoop.Pass :=
  schedule.flatMap Action.pass

def samplings (schedule : List (Action α)) : List Gyroscope.Sampling :=
  schedule.flatMap Action.sampling

theorem step_cases {sketch : Sketch} {s next : State α} {action : Action α}
    (taken : step sketch s action = some next) :
    (∃ statement mailbox, action = .mailbox statement ∧ ¬ statement.OfConsumer ∧
      receives sketch = true ∧ s.mailbox.step statement = some mailbox ∧
      next = { s with mailbox }) ∨
    (∃ statement mailbox, action = .mailbox statement ∧ statement.OfConsumer ∧
      s.position = .packet ∧ s.mailbox.step statement = some mailbox ∧
      next = packetStatement sketch s mailbox) ∨
    (∃ pass, action = .enter pass ∧ s.position = .start ∧ next = enter sketch s pass) ∨
    (∃ sampling, action = .sample sampling ∧ s.position = .gyroscope ∧
      next = sample s sampling) := by
  cases action with
  | mailbox statement =>
    cases statement <;>
      simp only [step, Option.ite_none_right_eq_some, Option.map_eq_some_iff] at taken <;>
      obtain ⟨enabled, mailbox, moved, rfl⟩ := taken
    case store payload => exact .inl ⟨_, mailbox, rfl, not_false, enabled, moved, rfl⟩
    case raise => exact .inl ⟨_, mailbox, rfl, not_false, enabled, moved, rfl⟩
    case test => exact .inr (.inl ⟨_, mailbox, rfl, trivial, enabled, moved, rfl⟩)
    case clear => exact .inr (.inl ⟨_, mailbox, rfl, trivial, enabled, moved, rfl⟩)
    case use => exact .inr (.inl ⟨_, mailbox, rfl, trivial, enabled, moved, rfl⟩)
  | enter pass =>
    simp only [step, Option.ite_none_right_eq_some, Option.some.injEq] at taken
    exact .inr (.inr (.inl ⟨pass, rfl, taken.1, taken.2.symm⟩))
  | sample sampling =>
    simp only [step, Option.ite_none_right_eq_some, Option.some.injEq] at taken
    exact .inr (.inr (.inr ⟨sampling, rfl, taken.1, taken.2.symm⟩))

end EspDrone.Flight

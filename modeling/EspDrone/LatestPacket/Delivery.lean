import EspDrone.LatestPacket.Model

set_option autoImplicit false

namespace EspDrone.LatestPacket.History

open Runs

variable {α : Type}

def NewestUnused (h : History α) : Prop :=
  h.arrived ≠ [] ∧ h.arrived.length ∉ h.used

-- What holds at every interleaving: a pending payload is always announced, and only
-- datagrams are used, in the order of their arrival.
structure Delivery (h : History α) : Prop where
  announced : h.NewestUnused → h.state.newPacketAvailable = true ∨
    h.state.callback = .stored ∨ h.state.consumer = .use
  raised : h.state.newPacketAvailable = true ∨ h.state.callback = .stored ∨
    h.state.consumer ≠ .test → h.arrived ≠ []
  numbered : ∀ n ∈ h.used, 1 ≤ n ∧ n ≤ h.arrived.length
  ordered : h.used.Pairwise (· ≤ ·)

theorem boot_delivery (empty : α) : (boot empty).Delivery where
  announced pending := absurd rfl pending.1
  raised started := by simp [boot, LatestPacket.boot] at started
  numbered := by simp [boot]
  ordered := List.Pairwise.nil

theorem store_delivery (h : History α) (payload : α) (delivery : h.Delivery) :
    Delivery { h with
      state := { h.state with latestPacket := payload, callback := .stored }
      arrived := h.arrived ++ [payload] } where
  announced _ := .inr (.inl rfl)
  raised _ := by simp
  numbered n member := by
    have bounds := delivery.numbered n member
    simp only [List.length_append, List.length_singleton]
    omega
  ordered := delivery.ordered

theorem raise_delivery (h : History α) (stored : h.state.callback = .stored)
    (delivery : h.Delivery) :
    Delivery { h with
      state := { h.state with newPacketAvailable := true, callback := .idle } } where
  announced _ := .inl rfl
  raised _ := delivery.raised (.inr (.inl stored))
  numbered := delivery.numbered
  ordered := delivery.ordered

theorem test_delivery (h : History α) (testing : h.state.consumer = .test)
    (delivery : h.Delivery) :
    Delivery { h with state :=
      { h.state with consumer := if h.state.newPacketAvailable then .clear else .test } } where
  announced pending := by
    rcases delivery.announced pending with flag | stored | using'
    · exact .inl flag
    · exact .inr (.inl stored)
    · simp [testing] at using'
  raised started := by
    apply delivery.raised
    rcases started with flag | stored | moved
    · exact .inl flag
    · exact .inr (.inl stored)
    · cases flag : h.state.newPacketAvailable with
      | true => exact .inl rfl
      | false => simp [flag] at moved
  numbered := delivery.numbered
  ordered := delivery.ordered

theorem clear_delivery (h : History α) (clearing : h.state.consumer = .clear)
    (delivery : h.Delivery) :
    Delivery { h with state :=
      { h.state with newPacketAvailable := false, consumer := .use } } where
  announced _ := .inr (.inr rfl)
  raised _ := delivery.raised (.inr (.inr (by simp [clearing])))
  numbered := delivery.numbered
  ordered := delivery.ordered

theorem use_delivery (h : History α) (using' : h.state.consumer = .use)
    (delivery : h.Delivery) :
    Delivery { h with
      state := { h.state with
        consumer := .test, printed := h.state.printed ++ [h.state.latestPacket] }
      used := h.used ++ [h.arrived.length] } where
  announced pending := absurd (by simp) pending.2
  raised started := delivery.raised (.inr (.inr (by simp [using'])))
  numbered n member := by
    have stored : h.arrived ≠ [] := delivery.raised (.inr (.inr (by simp [using'])))
    rcases List.mem_append.1 member with old | now
    · exact delivery.numbered n old
    · obtain rfl : n = h.arrived.length := by simpa using now
      exact ⟨List.length_pos_iff.2 stored, Nat.le_refl _⟩
  ordered := by
    refine List.pairwise_append.2 ⟨delivery.ordered, List.pairwise_singleton _ _, ?_⟩
    intro n old m now
    obtain rfl : m = h.arrived.length := by simpa using now
    exact (delivery.numbered n old).2

theorem step_delivery {h next : History α} {action : Action α} (delivery : h.Delivery)
    (taken : h.step action = some next) : next.Delivery := by
  obtain ⟨payload, -, -, rfl⟩ | ⟨-, stored, rfl⟩ | ⟨-, testing, rfl⟩ | ⟨-, clearing, rfl⟩ |
    ⟨-, using', rfl⟩ := step_cases taken
  · exact store_delivery h payload delivery
  · exact raise_delivery h stored delivery
  · exact test_delivery h testing delivery
  · exact clear_delivery h clearing delivery
  · exact use_delivery h using' delivery

theorem run_delivery (empty : α) (schedule : List (Action α)) (h : History α)
    (reached : run step (boot empty) schedule = some h) : h.Delivery :=
  run_invariant step Delivery (fun _ _ _ => step_delivery) schedule _ h (boot_delivery empty)
    reached

-- `actions` are statements of the main loop only: they finish the pass in progress,
-- if any, and then make at least one complete pass.
def CompletesPass (h : History α) (actions : List (Action α)) (final : History α) : Prop :=
  ∃ finishing pass middle, actions = finishing ++ pass ∧ (∀ a ∈ actions, a.OfConsumer) ∧
    run step h finishing = some middle ∧ middle.state.consumer = .test ∧
    pass ≠ [] ∧ run step middle pass = some final ∧ final.state.consumer = .test

structure Quiet (arrived : List α) (h : History α) : Prop where
  delivery : h.Delivery
  idle : h.state.callback = .idle
  same : h.arrived = arrived

theorem step_quiet {arrived : List α} {h next : History α} {action : Action α}
    (quiet : h.Quiet arrived) (consumer : action.OfConsumer)
    (taken : h.step action = some next) : next.Quiet arrived := by
  have delivery := step_delivery quiet.delivery taken
  obtain ⟨payload, rfl, -, rfl⟩ | ⟨rfl, -, rfl⟩ | ⟨rfl, -, rfl⟩ | ⟨rfl, -, rfl⟩ |
    ⟨rfl, -, rfl⟩ := step_cases taken
  · exact consumer.elim
  · exact consumer.elim
  all_goals exact ⟨delivery, quiet.idle, quiet.same⟩

-- A pass that has got beyond its test will use the newest packet, and one that has
-- ended has used it.
structure Settling (arrived : List α) (h : History α) : Prop extends h.Quiet arrived where
  used : h.NewestUnused → h.state.consumer ≠ .test

theorem test_settling {arrived : List α} {h next : History α} (quiet : h.Quiet arrived)
    (taken : h.step .test = some next) : next.Settling arrived := by
  have consumer : (Action.test : Action α).OfConsumer := trivial
  refine ⟨step_quiet quiet consumer taken, ?_⟩
  obtain ⟨_, other, -⟩ | ⟨other, -⟩ | ⟨-, testing, rfl⟩ | ⟨other, -⟩ | ⟨other, -⟩ :=
    step_cases taken <;> try cases other
  intro pending
  rcases quiet.delivery.announced pending with flag | stored | using'
  · simp [flag]
  · simp [quiet.idle] at stored
  · simp [testing] at using'

theorem step_settling {arrived : List α} {h next : History α} {action : Action α}
    (before : h.Quiet arrived) (consumer : action.OfConsumer)
    (taken : h.step action = some next) : next.Settling arrived := by
  have quiet := step_quiet before consumer taken
  cases action with
  | store | raise => exact consumer.elim
  | test => exact test_settling before taken
  | clear =>
    obtain ⟨_, other, -⟩ | ⟨other, -⟩ | ⟨other, -⟩ | ⟨-, -, rfl⟩ | ⟨other, -⟩ :=
      step_cases taken <;> try cases other
    exact ⟨quiet, fun _ => by simp⟩
  | use =>
    obtain ⟨_, other, -⟩ | ⟨other, -⟩ | ⟨other, -⟩ | ⟨other, -⟩ | ⟨-, -, rfl⟩ :=
      step_cases taken <;> try cases other
    exact ⟨quiet, fun pending => absurd (by simp) pending.2⟩

theorem pass_uses_newest {h final : History α} {actions : List (Action α)}
    (delivery : h.Delivery) (idle : h.state.callback = .idle)
    (pass : h.CompletesPass actions final) :
    final.arrived = h.arrived ∧ ¬ final.NewestUnused := by
  obtain ⟨finishing, pass, middle, rfl, consumer, before, testing, nonempty, during, ended⟩ := pass
  have quiet : middle.Quiet h.arrived :=
    along_invariant step (fun _ action => action.OfConsumer) (Quiet h.arrived)
      (fun _ _ _ => step_quiet) finishing h middle ⟨delivery, idle, rfl⟩
      (along_of_forall step _ h finishing fun a member => consumer a (by simp [member])) before
  match pass, nonempty with
  | first :: rest, _ =>
    obtain ⟨next, taken, later⟩ := (run_cons step middle final first rest).1 during
    obtain rfl : first = .test := by
      obtain ⟨payload, rfl, -⟩ | ⟨rfl, -⟩ | ⟨rfl, -⟩ | ⟨-, clearing, -⟩ | ⟨-, using', -⟩ :=
        step_cases taken
      · exact (consumer (.store payload) (by simp)).elim
      · exact (consumer .raise (by simp)).elim
      · rfl
      · simp [testing] at clearing
      · simp [testing] at using'
    have settling : final.Settling h.arrived :=
      along_invariant step (fun _ action => action.OfConsumer) (Settling h.arrived)
        (fun _ _ _ settling => step_settling settling.toQuiet) rest next final
        (test_settling quiet taken)
        (along_of_forall step _ next rest fun a member => consumer a (by simp [member])) later
    exact ⟨settling.same, fun pending => settling.used pending ended⟩

theorem pass_exists (h : History α) : ∃ actions final, h.CompletesPass actions final := by
  have pass (middle : History α) (testing : middle.state.consumer = .test) :
      ∃ pass final, (∀ a ∈ pass, a.OfConsumer) ∧ pass ≠ [] ∧
        run step middle pass = some final ∧ final.state.consumer = .test := by
    cases flag : middle.state.newPacketAvailable with
    | true =>
      exact ⟨[.test, .clear, .use], _, by simp [Action.OfConsumer], by simp,
        by simp [run, step, LatestPacket.step, testing, flag]; rfl, rfl⟩
    | false =>
      exact ⟨[.test], _, by simp [Action.OfConsumer], by simp,
        by simp [run, step, LatestPacket.step, testing, flag]; rfl, rfl⟩
  have finishing : ∃ finishing middle, (∀ a ∈ finishing, a.OfConsumer) ∧
      run step h finishing = some middle ∧ middle.state.consumer = .test := by
    cases at' : h.state.consumer with
    | test => exact ⟨[], h, by simp, rfl, at'⟩
    | clear =>
      exact ⟨[.clear, .use], _, by simp [Action.OfConsumer],
        by simp [run, step, LatestPacket.step, at']; rfl, rfl⟩
    | use =>
      exact ⟨[.use], _, by simp [Action.OfConsumer],
        by simp [run, step, LatestPacket.step, at']; rfl, rfl⟩
  obtain ⟨first, middle, firstConsumer, before, testing⟩ := finishing
  obtain ⟨second, final, secondConsumer, nonempty, during, ended⟩ := pass middle testing
  refine ⟨first ++ second, final, first, second, middle, rfl, ?_, before, testing, nonempty,
    during, ended⟩
  intro a member
  rcases List.mem_append.1 member with early | late
  · exact firstConsumer a early
  · exact secondConsumer a late

structure NeverLost (empty : α) (h : History α) : Prop where
  announced : h.NewestUnused → h.state.newPacketAvailable = true ∨
    h.state.callback = .stored ∨ h.state.consumer = .use
  pass : h.state.callback = .idle → (∃ actions final, h.CompletesPass actions final) ∧
    ∀ actions final, h.CompletesPass actions final →
      final.arrived = h.arrived ∧ ¬ final.NewestUnused
  printed : h.state.printed = h.used.map (payload empty h.arrived)
  ordered : h.used.Pairwise (· ≤ ·)

/-- No interleaving loses the newest packet, and none goes back to an older one. -/
theorem newest_packet_never_lost (empty : α) (schedule : List (Action α)) (h : History α)
    (reached : run step (boot empty) schedule = some h) : h.NeverLost empty := by
  have delivery := run_delivery empty schedule h reached
  have faithful := run_faithful empty schedule h reached
  exact {
    announced := delivery.announced
    pass := fun idle => ⟨pass_exists h, fun _ _ => pass_uses_newest delivery idle⟩
    printed := faithful.printed
    ordered := delivery.ordered }

def twoArrived : History Nat where
  state := { latestPacket := 2, newPacketAvailable := true }
  arrived := [1, 2]

theorem newest_packet_two_arrived : twoArrived.NeverLost 0 :=
  newest_packet_never_lost 0 [.store 1, .raise, .store 2, .raise] twoArrived (by decide)

end EspDrone.LatestPacket.History

import EspDrone.LatestPacket.Delivery

set_option autoImplicit false

namespace EspDrone.LatestPacket.History

open Runs

variable {α : Type}

def EachUsedOnce (h : History α) : Prop :=
  h.used.Pairwise (· < ·)

-- The schedule keeps the callback out of the window: no datagram is stored between the
-- clear and the use, and the flag is not cleared between the callback's two statements.
def OutsideWindow (h : History α) : Action α → Prop
  | .store _ => h.state.consumer ≠ .use
  | .clear => h.state.callback ≠ .stored
  | _ => True

-- Outside the window a raised flag, a callback half done and a pass under way each
-- mean that the newest payload is still to be used.
structure Fresh (h : History α) : Prop where
  delivery : h.Delivery
  once : h.EachUsedOnce
  pending : h.state.newPacketAvailable = true ∨ h.state.callback = .stored ∨
    h.state.consumer ≠ .test → h.arrived.length ∉ h.used
  cleared : h.state.consumer = .use →
    h.state.newPacketAvailable = false ∧ h.state.callback = .idle

theorem boot_fresh (empty : α) : (boot empty).Fresh where
  delivery := boot_delivery empty
  once := List.Pairwise.nil
  pending started := by simp [boot, LatestPacket.boot] at started
  cleared using' := by simp [boot, LatestPacket.boot] at using'

theorem next_number_unused {h : History α} (delivery : h.Delivery) :
    h.arrived.length + 1 ∉ h.used := by
  intro member
  have bounds := delivery.numbered _ member
  omega

theorem step_fresh {h next : History α} {action : Action α} (fresh : h.Fresh)
    (outside : h.OutsideWindow action) (taken : h.step action = some next) : next.Fresh := by
  have delivery := step_delivery fresh.delivery taken
  obtain ⟨payload, rfl, -, rfl⟩ | ⟨rfl, stored, rfl⟩ | ⟨rfl, testing, rfl⟩ |
    ⟨rfl, clearing, rfl⟩ | ⟨rfl, using', rfl⟩ := step_cases taken
  · refine ⟨delivery, fresh.once, fun _ => ?_, fun using' => absurd using' outside⟩
    simpa using next_number_unused fresh.delivery
  · refine ⟨delivery, fresh.once, fun _ => fresh.pending (.inr (.inl stored)), fun using' => ?_⟩
    simp [(fresh.cleared using').2] at stored
  · refine ⟨delivery, fresh.once, fun started => fresh.pending ?_, fun using' => ?_⟩
    · rcases started with flag | stored | moved
      · exact .inl flag
      · exact .inr (.inl stored)
      · -- The loop moves on from the test only when the flag is up.
        cases flag : h.state.newPacketAvailable with
        | true => exact .inl rfl
        | false => simp [flag] at moved
    · cases flag : h.state.newPacketAvailable <;> simp [flag] at using'
  · have idle : h.state.callback = .idle := by
      cases callback : h.state.callback with
      | idle => rfl
      | stored => exact absurd callback outside
    exact ⟨delivery, fresh.once, fun _ => fresh.pending (.inr (.inr (by simp [clearing]))),
      fun _ => ⟨rfl, idle⟩⟩
  · obtain ⟨flag, idle⟩ := fresh.cleared using'
    have unused := fresh.pending (.inr (.inr (by simp [using'])))
    refine ⟨delivery, ?_, fun started => ?_, fun again => by simp at again⟩
    · refine List.pairwise_append.2 ⟨fresh.once, List.pairwise_singleton _ _, ?_⟩
      intro n old m now
      obtain rfl : m = h.arrived.length := by simpa using now
      have bounds := fresh.delivery.numbered n old
      have distinct : n ≠ h.arrived.length := fun same => unused (same ▸ old)
      omega
    · simp [flag, idle] at started

theorem run_fresh (empty : α) (schedule : List (Action α)) (h : History α)
    (outside : Along step OutsideWindow (boot empty) schedule)
    (reached : run step (boot empty) schedule = some h) : h.Fresh :=
  along_invariant step OutsideWindow Fresh (fun _ _ _ => step_fresh) schedule _ h
    (boot_fresh empty) outside reached

def nextPass : List (Action α) :=
  [.use, .raise, .test, .clear, .use]

theorem inside_window {h next : History α} {action : Action α}
    (taken : h.step action = some next) (inside : ¬ h.OutsideWindow action) :
    next.state.callback = .stored ∧ next.state.consumer = .use := by
  obtain ⟨payload, rfl, -, rfl⟩ | ⟨rfl, -, rfl⟩ | ⟨rfl, -, rfl⟩ | ⟨rfl, -, rfl⟩ |
    ⟨rfl, -, rfl⟩ := step_cases taken <;> simp_all [OutsideWindow]

theorem nextPass_uses_twice (h : History α) (stored : h.state.callback = .stored)
    (using' : h.state.consumer = .use) :
    ∃ final, run step h nextPass = some final ∧
      final.used = h.used ++ [h.arrived.length, h.arrived.length] :=
  ⟨_, by simp [nextPass, run, step, LatestPacket.step, stored, using']; rfl, by simp⟩

theorem window_uses_twice {h next : History α} {action : Action α}
    (taken : h.step action = some next) (inside : ¬ h.OutsideWindow action) :
    ∃ final, run step next nextPass = some final ∧ ¬ final.EachUsedOnce := by
  obtain ⟨stored, using'⟩ := inside_window taken inside
  obtain ⟨final, later, used⟩ := nextPass_uses_twice next stored using'
  refine ⟨final, later, fun once => ?_⟩
  rw [EachUsedOnce, used, List.pairwise_append] at once
  simp at once

/-- A run that stays outside the window uses no datagram twice; a step into the window
is followed by a second use as soon as both sides go on with no new datagram. -/
theorem outside_window_uses_once (empty : α) (schedule : List (Action α)) (h : History α)
    (reached : run step (boot empty) schedule = some h) :
    (Along step OutsideWindow (boot empty) schedule → h.EachUsedOnce) ∧
    ∀ action next, h.step action = some next → ¬ h.OutsideWindow action →
      ∃ final, run step next nextPass = some final ∧ ¬ final.EachUsedOnce :=
  ⟨fun outside => (run_fresh empty schedule h outside reached).once,
    fun _ _ => window_uses_twice⟩

def clearedOnce : History Nat where
  state := { latestPacket := 1, consumer := .use }
  arrived := [1]

theorem outside_window_cleared_once :
    (Along step OutsideWindow (boot 0) [.store 1, .raise, .test, .clear] →
      clearedOnce.EachUsedOnce) ∧
    ∀ action next, clearedOnce.step action = some next → ¬ clearedOnce.OutsideWindow action →
      ∃ final, run step next nextPass = some final ∧ ¬ final.EachUsedOnce :=
  outside_window_uses_once 0 [.store 1, .raise, .test, .clear] clearedOnce (by decide)

/-- A whole callback between the clear and the use has its datagram used twice. -/
theorem packet_used_twice :
    ¬ ∀ (schedule : List (Action Nat)) (h : History Nat),
      run step (boot 0) schedule = some h → h.EachUsedOnce := by
  intro once
  have twice := once
    [.store 1, .raise, .test, .clear, .store 2, .raise, .use, .test, .clear, .use]
    { state := { latestPacket := 2, printed := [2, 2] }, arrived := [1, 2], used := [2, 2] }
    (by decide)
  simp [EachUsedOnce] at twice

end EspDrone.LatestPacket.History

import EspDrone.MainLoop.RateLimit
import EspDrone.Pid.Integrator
import Mathlib.Tactic.FieldSimp
import Mathlib.Tactic.IntervalCases

set_option autoImplicit false

namespace EspDrone.Pid

open RateGate

-- if (millis() - lastMainLoop >= 20) lastMainLoop = millis(); with lastMainLoop = 0 at boot.
def mainLoopPasses (calls : List Visit) : List Entry :=
  entries 20 0 calls

-- They are the executions of the flight sketch's main control block.
theorem bodies_mainLoopPasses (passes : List MainLoop.Pass) :
    MainLoop.Sketch.pidController.bodies passes =
      mainLoopPasses (passes.map MainLoop.Pass.mainLoop) :=
  MainLoop.sketch_bodies .pidController passes

theorem mainLoopPasses_spaced (calls : List Visit) (chronological : Chronological 0 calls) :
    (mainLoopPasses calls).Pairwise (fun p q => p.start + 20 ≤ q.start) := by
  have spaced := (entries_spaced 20 calls 0 0 (Nat.le_refl 0) chronological).2
  refine spaced.imp ?_
  rintro p q ⟨within, apart⟩
  have period : (20 : UInt32).toNat = 20 := rfl
  omega

def seconds (ms : Nat) : ℚ :=
  ms / 1000

def SpacingIsT (passes : List Entry) : Prop :=
  passes.IsChain fun p q => seconds q.start - seconds p.start = 0.004

def realIntegral (I : ℚ) : List (Entry × ℚ) → ℚ
  | (p, e) :: (q, f) :: rest =>
      I * ((f + e) / 2 * (seconds q.start - seconds p.start)) + realIntegral I ((q, f) :: rest)
  | _ => 0

-- From the first pass on, as long as nothing saturates, Iterm follows the real integral.
def IntegralIsReal (passes : List Entry) : Prop :=
  ∀ (P I D output x : ℚ) (first : Entry × ℚ) (rest : List (Entry × ℚ)), 0 < I →
    (first :: rest).map Prod.fst <+: passes →
    (∀ k ≤ (rest.map Prod.snd).length,
      -400 ≤ x + trapezoidSum I first.2 ((rest.map Prod.snd).take k) ∧
        x + trapezoidSum I first.2 ((rest.map Prod.snd).take k) ≤ 400) →
    iterm P I D output first.2 x (rest.map Prod.snd) = x + realIntegral I (first :: rest)

def DifferenceIsReal (passes : List Entry) : Prop :=
  ∀ (D e f : ℚ) (p q : Entry), [p, q] <:+: passes →
    dTerm f e D = D * ((f - e) / (seconds q.start - seconds p.start))

theorem realIntegral_of_spacing (I : ℚ) (first : Entry × ℚ) (rest : List (Entry × ℚ))
    (spacing : SpacingIsT ((first :: rest).map Prod.fst)) :
    realIntegral I (first :: rest) = trapezoidSum I first.2 (rest.map Prod.snd) := by
  induction rest generalizing first with
  | nil => rfl
  | cons next rest ih =>
    obtain ⟨apart, later⟩ := List.isChain_cons_cons.1 spacing
    have tail := ih next later
    simp only [realIntegral, tail, apart, trapezoidSum, List.map_cons, trapezoids, List.sum_cons]
    ring

theorem integral_of_spacing {passes : List Entry} (spacing : SpacingIsT passes) :
    IntegralIsReal passes := by
  intro P I D output x first rest _ passed within
  have chained : SpacingIsT ((first :: rest).map Prod.fst) := List.IsChain.prefix spacing passed
  rw [realIntegral_of_spacing I first rest chained]
  exact iterm_unsaturated P I D output first.2 x _ within

theorem difference_of_spacing {passes : List Entry} (spacing : SpacingIsT passes) :
    DifferenceIsReal passes := by
  intro D e f p q consecutive
  have chained : SpacingIsT [p, q] := List.IsChain.infix spacing consecutive
  have apart := (List.isChain_cons_cons.1 chained).1
  rw [dTerm, apart, mul_div_assoc]

theorem spacing_gap {p q : Entry} (spaced : p.start + 20 ≤ q.start) :
    0.02 ≤ seconds q.start - seconds p.start := by
  have cast : (p.start : ℚ) + 20 ≤ q.start := by exact_mod_cast spaced
  unfold seconds
  linarith

theorem not_spacing {p q : Entry} {rest : List Entry} (spaced : p.start + 20 ≤ q.start) :
    ¬ SpacingIsT (p :: q :: rest) := by
  intro spacing
  have apart := (List.isChain_cons_cons.1 spacing).1
  have gap := spacing_gap spaced
  rw [apart] at gap
  norm_num at gap

theorem not_integral {p q : Entry} {rest : List Entry} (spaced : p.start + 20 ≤ q.start) :
    ¬ IntegralIsReal (p :: q :: rest) := by
  intro real
  -- A constant error of 1 with I = 1 gains 0.004 a cycle.
  have unit : trapezoidSum 1 1 [1] = 0.004 := by norm_num [trapezoidSum, trapezoids]
  have within (k : Nat) (inside : k ≤ 1) :
      -400 ≤ 0 + trapezoidSum 1 1 ([1].take k) ∧ 0 + trapezoidSum 1 1 ([1].take k) ≤ 400 := by
    interval_cases k <;> norm_num [trapezoidSum, trapezoids]
  have gained : iterm 0 1 0 0 1 0 [1] = 0 + realIntegral 1 [(p, 1), (q, 1)] :=
    real 0 1 0 0 0 (p, 1) [(q, 1)] one_pos (by simp) within
  rw [iterm_unsaturated 0 1 0 0 1 0 [1] within, unit] at gained
  have gap := spacing_gap spaced
  norm_num [realIntegral] at gained
  linarith

theorem not_difference {p q : Entry} {rest : List Entry} (spaced : p.start + 20 ≤ q.start) :
    ¬ DifferenceIsReal (p :: q :: rest) := by
  intro real
  have slope := real 1 0 1 p q ⟨[], rest, rfl⟩
  have gap := spacing_gap spaced
  have positive : 0 < seconds q.start - seconds p.start := by linarith
  rw [dTerm] at slope
  field_simp at slope
  linarith

/-- The loop runs the controller at a spacing it does not assume: every run with a second
pass breaks the spacing, the integral and the difference quotient. -/
theorem time_step_never (calls : List Visit) (chronological : Chronological 0 calls) :
    (SpacingIsT (mainLoopPasses calls) ↔ (mainLoopPasses calls).length ≤ 1) ∧
    (IntegralIsReal (mainLoopPasses calls) ↔ (mainLoopPasses calls).length ≤ 1) ∧
    (DifferenceIsReal (mainLoopPasses calls) ↔ (mainLoopPasses calls).length ≤ 1) := by
  have spaced := mainLoopPasses_spaced calls chronological
  generalize mainLoopPasses calls = passes at spaced
  match passes, spaced with
  | [], _ =>
    have spacing : SpacingIsT [] := List.isChain_nil
    simp [spacing, integral_of_spacing spacing, difference_of_spacing spacing]
  | [p], _ =>
    have spacing : SpacingIsT [p] := List.isChain_singleton p
    simp [spacing, integral_of_spacing spacing, difference_of_spacing spacing]
  | p :: q :: rest, spaced =>
    have gap := (List.pairwise_cons.1 spaced).1 q (by simp)
    simp [not_spacing gap, not_integral gap, not_difference gap]

def twoPasses : List Visit :=
  [⟨20, 20⟩, ⟨40, 40⟩]

theorem time_step_two_passes :
    (SpacingIsT (mainLoopPasses twoPasses) ↔ (mainLoopPasses twoPasses).length ≤ 1) ∧
    (IntegralIsReal (mainLoopPasses twoPasses) ↔ (mainLoopPasses twoPasses).length ≤ 1) ∧
    (DifferenceIsReal (mainLoopPasses twoPasses) ↔ (mainLoopPasses twoPasses).length ≤ 1) :=
  time_step_never twoPasses (by simp [twoPasses, Chronological])

/-- The two passes are 20 ms apart, not 4 ms. -/
theorem two_passes_not_T :
    ¬ ∀ calls, Chronological 0 calls → SpacingIsT (mainLoopPasses calls) := by
  intro holds
  have passes : mainLoopPasses twoPasses = [⟨20, 20⟩, ⟨40, 40⟩] := by decide
  have spacing := holds twoPasses (by simp [twoPasses, Chronological])
  rw [passes] at spacing
  exact not_spacing (by norm_num) spacing

end EspDrone.Pid

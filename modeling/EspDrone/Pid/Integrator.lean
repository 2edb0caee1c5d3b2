import EspDrone.Pid.Controller
import EspDrone.Shared.ClampedShift

set_option autoImplicit false

namespace EspDrone.Pid

def trapezoids (I prevError : ℚ) : List ℚ → List ℚ
  | [] => []
  | error :: errors => I * (error + prevError) * 0.004 / 2 :: trapezoids I error errors

def trapezoidSum (I prevError : ℚ) (errors : List ℚ) : ℚ :=
  (trapezoids I prevError errors).sum

def itermStep (trapezoid : ℚ) : ClampedShift ℚ :=
  ⟨-400, 400, trapezoid, by norm_num⟩

theorem itermStep_apply (trapezoid x : ℚ) :
    (itermStep trapezoid).apply x = limit (x + trapezoid) := by
  rw [limit_eq_clamp]
  rfl

def itermShift (I prevError : ℚ) (errors : List ℚ) : ClampedShift ℚ :=
  (itermStep 0).sequence ((trapezoids I prevError errors).map itermStep)

theorem itermShift_shift (I prevError : ℚ) (errors : List ℚ) :
    (itermShift I prevError errors).shift = trapezoidSum I prevError errors := by
  have shifts : (trapezoids I prevError errors).map (ClampedShift.shift ∘ itermStep) =
      trapezoids I prevError errors := by
    simp [Function.comp_def, itermStep]
  rw [itermShift, ClampedShift.sequence_shift, List.map_map, shifts, trapezoidSum]
  simp [itermStep]

theorem itermShift_within (I prevError : ℚ) (errors : List ℚ) :
    -400 ≤ (itermShift I prevError errors).lo ∧ (itermShift I prevError errors).hi ≤ 400 := by
  have each (step : ClampedShift ℚ)
      (member : step ∈ (trapezoids I prevError errors).map itermStep) :
      -400 ≤ step.lo ∧ step.hi ≤ 400 := by
    obtain ⟨trapezoid, -, rfl⟩ := List.mem_map.1 member
    exact ⟨le_refl _, le_refl _⟩
  exact ClampedShift.sequence_within (itermStep 0) _ (-400) 400 (le_refl _) (le_refl _) each

theorem run_iterm_fold (P I D : ℚ) (start : PIDReturn ℚ) (errors : List ℚ) :
    (run P I D start errors).iterm =
      (trapezoids I start.error errors).foldl (fun x trapezoid => limit (x + trapezoid))
        start.iterm := by
  induction errors generalizing start with
  | nil => rfl
  | cons error errors ih =>
    rw [run_cons, ih]
    rfl

/-- The whole run is one clamped shift of the starting integral term. -/
theorem run_iterm (P I D : ℚ) (start : PIDReturn ℚ) (errors : List ℚ)
    (low : -400 ≤ start.iterm) (high : start.iterm ≤ 400) :
    (run P I D start errors).iterm = (itermShift I start.error errors).apply start.iterm := by
  have inside : (itermStep 0).apply start.iterm = start.iterm := by
    rw [itermStep_apply, add_zero, limit_of_mem low high]
  rw [run_iterm_fold, itermShift, ClampedShift.sequence_apply, inside, List.foldl_map]
  simp only [itermStep_apply]

theorem run_iterm_mem (P I D : ℚ) (start : PIDReturn ℚ) (errors : List ℚ)
    (low : -400 ≤ start.iterm) (high : start.iterm ≤ 400) :
    -400 ≤ (run P I D start errors).iterm ∧ (run P I D start errors).iterm ≤ 400 := by
  obtain ⟨within_lo, within_hi⟩ := itermShift_within I start.error errors
  rw [run_iterm P I D start errors low high]
  exact ⟨within_lo.trans (ClampedShift.lo_le_apply _ _),
    (ClampedShift.apply_le_hi _ _).trans within_hi⟩

theorem trapezoids_take (I prevError : ℚ) (errors : List ℚ) (k : Nat) :
    trapezoids I prevError (errors.take k) = (trapezoids I prevError errors).take k := by
  induction errors generalizing prevError k with
  | nil => simp [trapezoids]
  | cons error errors ih =>
    cases k with
    | zero => rfl
    | succ k => simp [trapezoids, ih]

theorem run_error (P I D : ℚ) (start : PIDReturn ℚ) (errors : List ℚ) :
    (run P I D start errors).error = (start.error :: errors).getLast (by simp) := by
  induction errors generalizing start with
  | nil => rfl
  | cons error errors ih =>
    rw [run_cons, ih]
    simp [cycle]

theorem foldl_limit_of_mem (steps : List ℚ) (x : ℚ)
    (within : ∀ k ≤ steps.length, -400 ≤ x + (steps.take k).sum ∧ x + (steps.take k).sum ≤ 400) :
    steps.foldl (fun value step => limit (value + step)) x = x + steps.sum := by
  induction steps generalizing x with
  | nil => simp
  | cons step steps ih =>
    have here : -400 ≤ x + step ∧ x + step ≤ 400 := by
      simpa using within 1 (by simp)
    rw [List.foldl_cons, limit_of_mem here.1 here.2, List.sum_cons, ← add_assoc]
    apply ih
    intro k inside
    have later := within (k + 1) (by simpa using inside)
    simpa [add_assoc] using later

def iterm (P I D output prevError prevIterm : ℚ) (errors : List ℚ) : ℚ :=
  (run P I D #v[output, prevError, prevIterm] errors).iterm

theorem iterm_closed (P I D output prevError x : ℚ) (errors : List ℚ)
    (low : -400 ≤ x) (high : x ≤ 400) :
    iterm P I D output prevError x errors = (itermShift I prevError errors).apply x :=
  run_iterm P I D #v[output, prevError, x] errors low high

theorem iterm_mem (P I D output prevError x : ℚ) (errors : List ℚ)
    (low : -400 ≤ x) (high : x ≤ 400) :
    -400 ≤ iterm P I D output prevError x errors ∧ iterm P I D output prevError x errors ≤ 400 :=
  run_iterm_mem P I D #v[output, prevError, x] errors low high

-- After some cycles the run goes on as one started from the integral term it has reached.
theorem iterm_append (P I D output prevError x : ℚ) (first later : List ℚ)
    (low : -400 ≤ x) (high : x ≤ 400) :
    iterm P I D output prevError x (first ++ later) =
      (itermShift I ((prevError :: first).getLast (by simp)) later).apply
        (iterm P I D output prevError x first) := by
  have inside := iterm_mem P I D output prevError x first low high
  rw [iterm, run_append, run_iterm P I D _ later inside.1 inside.2, run_error]
  rfl

theorem iterm_unsaturated (P I D output prevError x : ℚ) (errors : List ℚ)
    (within : ∀ k ≤ errors.length, -400 ≤ x + trapezoidSum I prevError (errors.take k) ∧
      x + trapezoidSum I prevError (errors.take k) ≤ 400) :
    iterm P I D output prevError x errors = x + trapezoidSum I prevError errors := by
  have length : (trapezoids I prevError errors).length = errors.length := by
    clear within
    induction errors generalizing prevError with
    | nil => rfl
    | cons error errors ih => simp [trapezoids, ih]
  rw [iterm, run_iterm_fold]
  apply foldl_limit_of_mem
  intro k inside
  have here := within k (length ▸ inside)
  simpa [trapezoidSum, trapezoids_take, PIDReturn.error, PIDReturn.iterm] using here

theorem iterm_ordered (P I D output prevError x y : ℚ) (errors : List ℚ)
    (low : -400 ≤ x) (ordered : x ≤ y) (high : y ≤ 400) :
    iterm P I D output prevError x errors ≤ iterm P I D output prevError y errors := by
  rw [iterm_closed P I D output prevError x errors low (ordered.trans high),
    iterm_closed P I D output prevError y errors (low.trans ordered) high]
  exact ClampedShift.apply_mono _ ordered

theorem iterm_contracts (P I D output prevError x y : ℚ) (first later : List ℚ)
    (low : -400 ≤ x) (ordered : x ≤ y) (high : y ≤ 400) :
    iterm P I D output prevError y (first ++ later) -
        iterm P I D output prevError x (first ++ later) ≤
      iterm P I D output prevError y first - iterm P I D output prevError x first := by
  rw [iterm_append P I D output prevError x first later low (ordered.trans high),
    iterm_append P I D output prevError y first later (low.trans ordered) high]
  exact ClampedShift.apply_sub_le _
    (iterm_ordered P I D output prevError x y first low ordered high)

/-- The integral term after any number of cycles is the starting one plus the
trapezoidal sum, clamped to bounds that only the gain and the errors determine. -/
theorem integral_closed_form (I prevError : ℚ) (errors : List ℚ) :
    (∃ lo hi, -400 ≤ lo ∧ lo ≤ hi ∧ hi ≤ 400 ∧ ∀ P D output x, -400 ≤ x → x ≤ 400 →
      iterm P I D output prevError x errors =
        max lo (min hi (x + trapezoidSum I prevError errors))) ∧
    (∀ P D output x,
      (∀ k ≤ errors.length, -400 ≤ x + trapezoidSum I prevError (errors.take k) ∧
        x + trapezoidSum I prevError (errors.take k) ≤ 400) →
      iterm P I D output prevError x errors = x + trapezoidSum I prevError errors) ∧
    (∀ P D output x y first later, errors = first ++ later → -400 ≤ x → x ≤ y → y ≤ 400 →
      iterm P I D output prevError x errors ≤ iterm P I D output prevError y errors ∧
      iterm P I D output prevError y errors - iterm P I D output prevError x errors ≤
        iterm P I D output prevError y first - iterm P I D output prevError x first ∧
      (iterm P I D output prevError x first = iterm P I D output prevError y first →
        iterm P I D output prevError x errors = iterm P I D output prevError y errors)) := by
  refine ⟨?_, ?_, ?_⟩
  · have within := itermShift_within I prevError errors
    refine ⟨_, _, within.1, (itermShift I prevError errors).bounds, within.2, ?_⟩
    intro P D output x low high
    rw [iterm_closed P I D output prevError x errors low high, ← itermShift_shift]
    rfl
  · intro P D output x within
    exact iterm_unsaturated P I D output prevError x errors within
  · rintro P D output x y first later rfl low ordered high
    refine ⟨iterm_ordered P I D output prevError x y _ low ordered high,
      iterm_contracts P I D output prevError x y first later low ordered high, ?_⟩
    intro agree
    rw [iterm_append P I D output prevError x first later low (ordered.trans high),
      iterm_append P I D output prevError y first later (low.trans ordered) high, agree]

end EspDrone.Pid

import EspDrone.Pid.Controller
import Mathlib.Data.List.Forall2

set_option autoImplicit false

namespace EspDrone.Pid

theorem pTerm_mono {P e f : ℚ} (gain : 0 ≤ P) (errors : e ≤ f) : pTerm e P ≤ pTerm f P :=
  mul_le_mul_of_nonneg_left errors gain

theorem iTerm_mono {I e f prevE prevF x y : ℚ} (gain : 0 ≤ I) (errors : e ≤ f)
    (previous : prevE ≤ prevF) (iterms : x ≤ y) : iTerm e prevE I x ≤ iTerm f prevF I y := by
  have sums : I * (e + prevE) ≤ I * (f + prevF) :=
    mul_le_mul_of_nonneg_left (add_le_add errors previous) gain
  apply limit_mono
  linarith

theorem dTerm_mono {D e f prevError : ℚ} (gain : 0 ≤ D) (errors : e ≤ f) :
    dTerm e prevError D ≤ dTerm f prevError D := by
  have differences : D * (e - prevError) ≤ D * (f - prevError) :=
    mul_le_mul_of_nonneg_left (sub_le_sub_right errors prevError) gain
  exact div_le_div_of_nonneg_right differences (by norm_num)

theorem pidController_mono {P I D e f prevError prevIterm : ℚ}
    (gainP : 0 ≤ P) (gainI : 0 ≤ I) (gainD : 0 ≤ D) (errors : e ≤ f) :
    (pidController e prevError P I D prevIterm).output ≤
        (pidController f prevError P I D prevIterm).output ∧
      (pidController e prevError P I D prevIterm).iterm ≤
        (pidController f prevError P I D prevIterm).iterm := by
  have integral := iTerm_mono gainI errors (le_refl prevError) (le_refl prevIterm)
  refine ⟨limit_mono ?_, integral⟩
  exact add_le_add (add_le_add (pTerm_mono gainP errors) integral) (dTerm_mono gainD errors)

theorem run_related {R : PIDReturn ℚ → PIDReturn ℚ → Prop} {P I D : ℚ} {errors larger : List ℚ}
    (step : ∀ {lower upper e f}, R lower upper → e ≤ f →
      R (cycle P I D lower e) (cycle P I D upper f))
    (pointwise : errors.Forall₂ (· ≤ ·) larger) {lower upper : PIDReturn ℚ}
    (start : R lower upper) : R (run P I D lower errors) (run P I D upper larger) := by
  induction pointwise generalizing lower upper with
  | nil => exact start
  | cons ordered _ ih =>
    rw [run_cons, run_cons]
    exact ih (step start ordered)

-- What two runs compare by: the two values fed back, and with D = 0 the output as well.
def FedBackLe (lower upper : PIDReturn ℚ) : Prop :=
  lower.error ≤ upper.error ∧ lower.iterm ≤ upper.iterm

def AllLe (lower upper : PIDReturn ℚ) : Prop :=
  lower.output ≤ upper.output ∧ FedBackLe lower upper

theorem allLe_refl (returned : PIDReturn ℚ) : AllLe returned returned :=
  ⟨le_refl _, le_refl _, le_refl _⟩

theorem cycle_fedBackLe {P I D e f : ℚ} {lower upper : PIDReturn ℚ} (gain : 0 ≤ I)
    (before : FedBackLe lower upper) (errors : e ≤ f) :
    FedBackLe (cycle P I D lower e) (cycle P I D upper f) :=
  ⟨errors, iTerm_mono gain errors before.1 before.2⟩

theorem cycle_allLe {P I e f : ℚ} {lower upper : PIDReturn ℚ} (gainP : 0 ≤ P) (gainI : 0 ≤ I)
    (before : AllLe lower upper) (errors : e ≤ f) :
    AllLe (cycle P I 0 lower e) (cycle P I 0 upper f) := by
  have after := cycle_fedBackLe (P := P) (D := 0) gainI before.2 errors
  refine ⟨?_, after⟩
  simp only [cycle, pidController_output, dTerm, zero_mul, zero_div, add_zero]
  exact limit_mono (add_le_add (pTerm_mono gainP errors) after.2)

/-- A call is monotone in its error. So is a run in its errors: the integral term at every
cycle for any D, the output as well when D = 0. -/
theorem larger_error_larger_correction (P I : ℚ) (gainP : 0 ≤ P) (gainI : 0 ≤ I) :
    (∀ D prevError prevIterm, 0 ≤ D →
      Monotone (fun error => (pidController error prevError P I D prevIterm).output) ∧
      Monotone (fun error => (pidController error prevError P I D prevIterm).iterm)) ∧
    (∀ (start : PIDReturn ℚ) (errors larger : List ℚ), errors.Forall₂ (· ≤ ·) larger → ∀ k,
      (run P I 0 start (errors.take k)).output ≤ (run P I 0 start (larger.take k)).output ∧
      (run P I 0 start (errors.take k)).iterm ≤ (run P I 0 start (larger.take k)).iterm) ∧
    (∀ (D : ℚ) (start : PIDReturn ℚ) (errors larger : List ℚ), errors.Forall₂ (· ≤ ·) larger → ∀ k,
      (run P I D start (errors.take k)).iterm ≤ (run P I D start (larger.take k)).iterm) := by
  refine ⟨?_, ?_, ?_⟩
  · intro D prevError prevIterm gainD
    exact ⟨fun e f errors => (pidController_mono gainP gainI gainD errors).1,
      fun e f errors => (pidController_mono gainP gainI gainD errors).2⟩
  · intro start errors larger pointwise k
    have ordered := run_related (R := AllLe) (P := P) (I := I) (D := 0)
      (cycle_allLe gainP gainI) (List.forall₂_take k pointwise)
      (allLe_refl start)
    exact ⟨ordered.1, ordered.2.2⟩
  · intro D start errors larger pointwise k
    have ordered := run_related (R := FedBackLe) (P := P) (I := I) (D := D) (cycle_fedBackLe gainI)
      (List.forall₂_take k pointwise) (allLe_refl start).2
    exact ordered.2

theorem larger_error_larger_correction_yaw :
    (∀ D prevError prevIterm : ℚ, 0 ≤ D →
      Monotone (fun error => (pidController error prevError 2 12 D prevIterm).output) ∧
      Monotone (fun error => (pidController error prevError 2 12 D prevIterm).iterm)) ∧
    (∀ (start : PIDReturn ℚ) (errors larger : List ℚ), errors.Forall₂ (· ≤ ·) larger → ∀ k,
      (run 2 12 0 start (errors.take k)).output ≤ (run 2 12 0 start (larger.take k)).output ∧
      (run 2 12 0 start (errors.take k)).iterm ≤ (run 2 12 0 start (larger.take k)).iterm) ∧
    (∀ (D : ℚ) (start : PIDReturn ℚ) (errors larger : List ℚ), errors.Forall₂ (· ≤ ·) larger → ∀ k,
      (run 2 12 D start (errors.take k)).iterm ≤ (run 2 12 D start (larger.take k)).iterm) :=
  larger_error_larger_correction 2 12 (by norm_num) (by norm_num)

end EspDrone.Pid

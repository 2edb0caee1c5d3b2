import EspDrone.Pid.Integrator

set_option autoImplicit false

namespace EspDrone.Pid

-- Error + PrevError of every cycle.
def errorSums (prevError : ℚ) : List ℚ → List ℚ
  | [] => []
  | error :: errors => (error + prevError) :: errorSums error errors

def mirror (returned : PIDReturn ℚ) : PIDReturn ℚ :=
  returned.map fun x => -x

@[simp] theorem mirror_error (returned : PIDReturn ℚ) :
    (mirror returned).error = -returned.error := by
  simp [mirror, PIDReturn.error]

@[simp] theorem mirror_iterm (returned : PIDReturn ℚ) :
    (mirror returned).iterm = -returned.iterm := by
  simp [mirror, PIDReturn.iterm]

theorem limit_neg (x : ℚ) : limit (-x) = -limit x := by
  unfold limit
  split_ifs <;> linarith

theorem iTerm_neg (error prevError I prevIterm : ℚ) :
    iTerm (-error) (-prevError) I (-prevIterm) = -iTerm error prevError I prevIterm := by
  rw [iTerm, iTerm, ← limit_neg]
  congr 1
  ring

theorem pidController_neg (error prevError P I D prevIterm : ℚ) :
    pidController (-error) (-prevError) P I D (-prevIterm) =
      mirror (pidController error prevError P I D prevIterm) := by
  have output :
      pTerm (-error) P + -iTerm error prevError I prevIterm + dTerm (-error) (-prevError) D =
        -(pTerm error P + iTerm error prevError I prevIterm + dTerm error prevError D) := by
    simp only [pTerm, dTerm]
    ring
  simp only [pidController, iTerm_neg, output, limit_neg]
  simp [mirror]

theorem run_mirror (P I D : ℚ) (start : PIDReturn ℚ) (errors : List ℚ) :
    run P I D (mirror start) (errors.map fun error => -error) =
      mirror (run P I D start errors) := by
  induction errors generalizing start with
  | nil => rfl
  | cons error errors ih =>
    have step : cycle P I D (mirror start) (-error) = mirror (cycle P I D start error) := by
      rw [cycle, mirror_error, mirror_iterm, pidController_neg, cycle]
    rw [List.map_cons, run_cons, run_cons, step, ih]

theorem errorSums_neg (prevError : ℚ) (errors : List ℚ) :
    errorSums (-prevError) (errors.map fun error => -error) =
      (errorSums prevError errors).map fun sum => -sum := by
  induction errors generalizing prevError with
  | nil => rfl
  | cons error errors ih =>
    simp only [List.map_cons, errorSums, ih, neg_add]

theorem errorSums_mirror {bound : ℚ} {reached : PIDReturn ℚ} {errors : List ℚ}
    (sums : ∀ sum ∈ errorSums reached.error errors, sum ≤ -bound) :
    ∀ sum ∈ errorSums (mirror reached).error (errors.map fun error => -error), bound ≤ sum := by
  rw [mirror_error, errorSums_neg]
  intro sum member
  obtain ⟨original, origin, rfl⟩ := List.mem_map.1 member
  linarith [sums original origin]

/-- Progress through a clamp that may act at any cycle: what is not yet 400 has moved by
the whole of every step. -/
theorem run_progress (P I D delta : ℚ) (start : PIDReturn ℚ) (errors : List ℚ)
    (gain : 0 ≤ I) (nonneg : 0 ≤ delta) (sums : ∀ sum ∈ errorSums start.error errors, delta ≤ sum) :
    min 400 (start.iterm + errors.length * (I * delta * 0.002)) ≤
      (run P I D start errors).iterm := by
  have forward : 0 ≤ I * delta * 0.002 := by positivity
  induction errors generalizing start with
  | nil => simp [run]
  | cons error errors ih =>
    obtain ⟨here, later⟩ := List.forall_mem_cons.1 sums
    have moved : start.iterm + I * delta * 0.002 ≤
        start.iterm + I * (error + start.error) * 0.004 / 2 := by
      have := mul_le_mul_of_nonneg_left here gain
      linarith
    have stepped : min 400 (start.iterm + I * delta * 0.002) ≤ (cycle P I D start error).iterm := by
      rw [cycle, pidController_iterm, iTerm, limit_eq_clamp]
      exact (min_le_min_left 400 moved).trans (le_max_right _ _)
    have ahead : (0 : ℚ) ≤ errors.length * (I * delta * 0.002) := by positivity
    rw [run_cons]
    refine le_trans (le_min (min_le_left _ _) ?_) (ih (cycle P I D start error) later)
    rw [List.length_cons, Nat.cast_succ, add_mul, one_mul]
    rcases min_le_iff.1 stepped with full | short
    · exact (min_le_left _ _).trans (by linarith)
    · exact (min_le_right _ _).trans (by linarith)

theorem cycle_below (P I D : ℚ) (previous : PIDReturn ℚ) (error : ℚ) (gain : 0 < I)
    (full : previous.iterm = 400) (turned : error + previous.error < 0) :
    (cycle P I D previous error).iterm < 400 := by
  have back : I * (error + previous.error) < 0 := mul_neg_of_pos_of_neg gain turned
  rw [cycle, pidController_iterm, iTerm, limit_eq_clamp, full]
  exact max_lt (by norm_num) (min_lt_of_right_lt (by linarith))

-- Iterm is 400, stays there while Error + PrevError >= 0, and is below it one cycle after.
def FullUntilTurned (P I D : ℚ) (reached : PIDReturn ℚ) : Prop :=
  reached.iterm = 400 ∧
    ∀ later, (∀ sum ∈ errorSums reached.error later, 0 ≤ sum) →
      (run P I D reached later).iterm = 400 ∧
      ∀ error, error + (run P I D reached later).error < 0 →
        (run P I D reached (later ++ [error])).iterm < 400

def EmptyUntilTurned (P I D : ℚ) (reached : PIDReturn ℚ) : Prop :=
  reached.iterm = -400 ∧
    ∀ later, (∀ sum ∈ errorSums reached.error later, sum ≤ 0) →
      (run P I D reached later).iterm = -400 ∧
      ∀ error, error + (run P I D reached later).error > 0 →
        (run P I D reached (later ++ [error])).iterm > -400

theorem full_until_turned (P I D : ℚ) (reached : PIDReturn ℚ) (gain : 0 < I)
    (full : reached.iterm = 400) : FullUntilTurned P I D reached := by
  refine ⟨full, ?_⟩
  intro later sums
  have stays : (run P I D reached later).iterm = 400 := by
    have above := run_progress P I D 0 reached later gain.le (le_refl 0) sums
    have within := run_iterm_mem P I D reached later (by linarith) (by linarith)
    simp only [full, mul_zero, zero_mul, add_zero, min_self] at above
    exact le_antisymm within.2 above
  refine ⟨stays, ?_⟩
  intro error turned
  rw [run_append]
  exact cycle_below P I D _ error gain stays turned

theorem empty_of_mirror (P I D : ℚ) (reached : PIDReturn ℚ)
    (mirrored : FullUntilTurned P I D (mirror reached)) : EmptyUntilTurned P I D reached := by
  obtain ⟨full, held⟩ := mirrored
  rw [mirror_iterm] at full
  refine ⟨by linarith, ?_⟩
  intro later sums
  obtain ⟨stays, leaves⟩ := held (later.map fun error => -error)
    (errorSums_mirror (by simpa using sums))
  rw [run_mirror, mirror_iterm] at stays
  refine ⟨by linarith, ?_⟩
  intro error turned
  have left := leaves (-error) (by
    rw [run_mirror, mirror_error]
    linarith)
  have mapped : later.map (fun error => -error) ++ [-error] =
      (later ++ [error]).map fun error => -error := by
    simp
  rw [mapped, run_mirror, mirror_iterm] at left
  linarith

theorem run_full (P I D delta : ℚ) (start : PIDReturn ℚ) (errors : List ℚ)
    (gain : 0 < I) (positive : 0 < delta) (low : -400 ≤ start.iterm) (high : start.iterm ≤ 400)
    (long : 800 ≤ errors.length * I * delta * 0.002)
    (sums : ∀ sum ∈ errorSums start.error errors, delta ≤ sum) :
    (run P I D start errors).iterm = 400 := by
  have progress := run_progress P I D delta start errors gain.le positive.le sums
  have within := run_iterm_mem P I D start errors low high
  rw [min_eq_left (by linarith)] at progress
  exact le_antisymm within.2 progress

/-- From any history, cycles that together are worth 800 take the integral term to its
limit; it stays until the errors turn, and leaves on the first cycle they do. -/
theorem saturates_without_windup (P I D delta : ℚ) (start : PIDReturn ℚ) (history errors : List ℚ)
    (gain : 0 < I) (positive : 0 < delta) (low : -400 ≤ start.iterm) (high : start.iterm ≤ 400)
    (long : 800 ≤ errors.length * I * delta * 0.002) :
    ((∀ sum ∈ errorSums (run P I D start history).error errors, sum ≥ delta) →
      FullUntilTurned P I D (run P I D start (history ++ errors))) ∧
    ((∀ sum ∈ errorSums (run P I D start history).error errors, sum ≤ -delta) →
      EmptyUntilTurned P I D (run P I D start (history ++ errors))) := by
  have within := run_iterm_mem P I D start history low high
  rw [run_append]
  generalize run P I D start history = reached at within ⊢
  constructor
  · intro sums
    apply full_until_turned P I D _ gain
    exact run_full P I D delta reached errors gain positive within.1 within.2 long sums
  · intro sums
    apply empty_of_mirror
    apply full_until_turned P I D _ gain
    rw [← run_mirror]
    apply run_full P I D delta (mirror reached) _ gain positive
    · rw [mirror_iterm]
      linarith
    · rw [mirror_iterm]
      linarith
    · simpa using long
    · exact errorSums_mirror sums

-- The gains of the pitch axis, after one cycle the other way.
theorem saturates_without_windup_pitch :
    FullUntilTurned 0.6 3.5 0.03
        (run 0.6 3.5 0.03 #v[0, 0, 0] ([-300] ++ [40000, 20000, 20000, 20000])) ∧
      EmptyUntilTurned 0.6 3.5 0.03
        (run 0.6 3.5 0.03 #v[0, 0, 0] ([300] ++ [-40000, -20000, -20000, -20000])) := by
  constructor
  · refine (saturates_without_windup 0.6 3.5 0.03 30000 #v[0, 0, 0] [-300]
      [40000, 20000, 20000, 20000] (by norm_num) (by norm_num) (by norm_num [PIDReturn.iterm])
      (by norm_num [PIDReturn.iterm]) (by norm_num)).1 ?_
    norm_num [errorSums, run, cycle]
  · refine (saturates_without_windup 0.6 3.5 0.03 30000 #v[0, 0, 0] [300]
      [-40000, -20000, -20000, -20000] (by norm_num) (by norm_num) (by norm_num [PIDReturn.iterm])
      (by norm_num [PIDReturn.iterm]) (by norm_num)).2 ?_
    norm_num [errorSums, run, cycle]

end EspDrone.Pid

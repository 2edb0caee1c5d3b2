import Mathlib.Data.Option.Basic

set_option autoImplicit false

/-!
# Runs of a labelled system

A step function that may refuse an action, its runs over a list of actions, and
the induction rule every safety result goes through: what each step meeting a
side condition keeps, each run meeting it throughout keeps.
-/

namespace Runs

variable {σ α : Type}

def run (step : σ → α → Option σ) : σ → List α → Option σ
  | state, [] => some state
  | state, action :: rest => (step state action).bind fun next => run step next rest

def Along (step : σ → α → Option σ) (condition : σ → α → Prop) : σ → List α → Prop
  | _, [] => True
  | state, action :: rest =>
      condition state action ∧
        ∀ next, step state action = some next → Along step condition next rest

theorem run_cons (step : σ → α → Option σ) (state final : σ) (action : α) (rest : List α) :
    run step state (action :: rest) = some final ↔
      ∃ next, step state action = some next ∧ run step next rest = some final := by
  simp [run, Option.bind_eq_some_iff]

theorem run_append (step : σ → α → Option σ) (state : σ) (early late : List α) :
    run step state (early ++ late) =
      (run step state early).bind fun next => run step next late := by
  induction early generalizing state with
  | nil => rfl
  | cons action rest ih =>
    simp only [List.cons_append, run]
    cases step state action with
    | none => rfl
    | some next => exact ih next

theorem along_append (step : σ → α → Option σ) (condition : σ → α → Prop) (state middle : σ)
    (early late : List α) (reached : run step state early = some middle)
    (before : Along step condition state early) (after : Along step condition middle late) :
    Along step condition state (early ++ late) := by
  induction early generalizing state with
  | nil =>
    obtain rfl : state = middle := Option.some.inj reached
    exact after
  | cons action rest ih =>
    obtain ⟨next, taken, later⟩ := (run_cons step state middle action rest).1 reached
    refine ⟨before.1, fun other also => ?_⟩
    obtain rfl := Option.some.inj (taken.symm.trans also)
    exact ih next later (before.2 next taken)

theorem along_of_forall (step : σ → α → Option σ) (condition : α → Prop) (state : σ)
    (actions : List α) (all : ∀ action ∈ actions, condition action) :
    Along step (fun _ action => condition action) state actions := by
  induction actions generalizing state with
  | nil => trivial
  | cons action rest ih =>
    exact ⟨all action (by simp),
      fun next _ => ih next fun later member => all later (List.mem_cons_of_mem _ member)⟩

theorem along_invariant (step : σ → α → Option σ) (condition : σ → α → Prop)
    (invariant : σ → Prop)
    (preserved : ∀ state action next, invariant state → condition state action →
      step state action = some next → invariant next)
    (actions : List α) (start final : σ) (initial : invariant start)
    (along : Along step condition start actions)
    (reached : run step start actions = some final) : invariant final := by
  induction actions generalizing start with
  | nil =>
    obtain rfl : start = final := Option.some.inj reached
    exact initial
  | cons action rest ih =>
    obtain ⟨next, taken, later⟩ := (run_cons step start final action rest).1 reached
    exact ih next (preserved start action next initial along.1 taken) (along.2 next taken) later

-- A run that meets the condition throughout but for one step shows that step at its end.
theorem broken_invariant (step : σ → α → Option σ) (condition : σ → α → Prop)
    (invariant broken : σ → Prop)
    (preserved : ∀ state action next, invariant state → step state action = some next →
      invariant next)
    (breaks : ∀ state action next, invariant state → ¬condition state action →
      step state action = some next → broken next)
    (stays : ∀ state action next, invariant state → broken state →
      step state action = some next → broken next)
    (actions : List α) (start final : σ) (initial : invariant start)
    (missed : ¬Along step condition start actions)
    (reached : run step start actions = some final) : broken final := by
  induction actions generalizing start with
  | nil => exact absurd trivial missed
  | cons action rest ih =>
    obtain ⟨next, taken, later⟩ := (run_cons step start final action rest).1 reached
    have kept := preserved start action next initial taken
    by_cases here : condition start action
    · apply ih next kept _ later
      intro along
      refine missed ⟨here, fun next' taken' => ?_⟩
      obtain rfl := Option.some.inj (taken.symm.trans taken')
      exact along
    · have both := along_invariant step (fun _ _ => True)
        (fun state => invariant state ∧ broken state)
        (fun state action next holds _ taken =>
          ⟨preserved state action next holds.1 taken,
            stays state action next holds.1 holds.2 taken⟩)
        rest next final ⟨kept, breaks start action next initial here taken⟩
        (along_of_forall step _ next rest fun _ _ => trivial) later
      exact both.2

theorem run_invariant (step : σ → α → Option σ) (invariant : σ → Prop)
    (preserved : ∀ state action next, invariant state → step state action = some next →
      invariant next)
    (actions : List α) (start final : σ) (initial : invariant start)
    (reached : run step start actions = some final) : invariant final :=
  along_invariant step (fun _ _ => True) invariant
    (fun state action next holds _ taken => preserved state action next holds taken)
    actions start final initial (along_of_forall step _ start actions fun _ _ => trivial) reached

end Runs

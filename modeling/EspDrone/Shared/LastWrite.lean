import Mathlib.Data.List.Induction

set_option autoImplicit false

namespace LastWrite

variable {ρ β : Type}

def value (write : ρ → Option β) (initial : β) (history : List ρ) : β :=
  (history.reverse.findSome? write).getD initial

theorem value_snoc (write : ρ → Option β) (initial : β) (history : List ρ) (request : ρ) :
    value write initial (history ++ [request]) =
      (write request).getD (value write initial history) := by
  simp only [value, List.reverse_append, List.reverse_singleton, List.singleton_append,
    List.findSome?_cons]
  cases write request <;> rfl

/-- A register of a running system that every request writes or leaves alone. -/
theorem foldl_project {σ : Type} (step : σ → ρ → σ) (project : σ → β) (write : ρ → Option β)
    (writes : ∀ state request, project (step state request) =
      (write request).getD (project state))
    (start : σ) (history : List ρ) :
    project (history.foldl step start) = value write (project start) history := by
  induction history using List.reverseRecOn with
  | nil => rfl
  | append_singleton history request ih =>
    rw [List.foldl_append, List.foldl_cons, List.foldl_nil, writes, ih, value_snoc]

end LastWrite

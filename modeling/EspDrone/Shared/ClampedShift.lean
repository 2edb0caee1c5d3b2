import Mathlib.Algebra.Order.Group.MinMax
import Mathlib.Algebra.BigOperators.Group.List.Basic
import Mathlib.Tactic.Abel

set_option autoImplicit false

structure ClampedShift (G : Type) [LE G] where
  lo : G
  hi : G
  shift : G
  bounds : lo ≤ hi

namespace ClampedShift

theorem clamp_clamp {G : Type} [LinearOrder G] {a lo hi b : G} (low : a ≤ lo) (high : hi ≤ b)
    (z : G) : max lo (min hi (max a (min b z))) = max lo (min hi z) := by
  have inner : min hi a ≤ lo := (min_le_right hi a).trans low
  rw [min_max_distrib_left, ← min_assoc, min_eq_left high, ← max_assoc, max_eq_left inner]

variable {G : Type} [AddCommGroup G] [LinearOrder G]

def apply (c : ClampedShift G) (x : G) : G :=
  max c.lo (min c.hi (x + c.shift))

theorem lo_le_apply (c : ClampedShift G) (x : G) : c.lo ≤ c.apply x :=
  le_max_left _ _

theorem apply_le_hi (c : ClampedShift G) (x : G) : c.apply x ≤ c.hi :=
  max_le c.bounds (min_le_left _ _)

section Ordered

variable [IsOrderedAddMonoid G]

theorem apply_mono (c : ClampedShift G) : Monotone c.apply := by
  intro x y ordered
  exact max_le_max_left c.lo (min_le_min_left c.hi (add_le_add_left ordered c.shift))

theorem apply_sub_le (c : ClampedShift G) {x y : G} (ordered : x ≤ y) :
    c.apply y - c.apply x ≤ y - x := by
  rw [sub_le_iff_le_add]
  have far : y + c.shift ≤ (y - x) + (x + c.shift) := le_of_eq (by abel)
  have apart : 0 ≤ y - x := sub_nonneg.2 ordered
  -- Shifting the clamped value up by the distance stays above every part of the other.
  have above (z : G) : z ≤ (y - x) + z := le_add_of_nonneg_left apart
  rw [apply, apply, ← max_add_add_left, ← min_add_add_left]
  exact max_le_max (above c.lo) (min_le_min (above c.hi) far)

/-- Apply `inner`, then `outer`. -/
def comp (outer inner : ClampedShift G) : ClampedShift G where
  lo := outer.apply inner.lo
  hi := outer.apply inner.hi
  shift := inner.shift + outer.shift
  bounds := outer.apply_mono inner.bounds

@[simp] theorem comp_apply (outer inner : ClampedShift G) (x : G) :
    (outer.comp inner).apply x = outer.apply (inner.apply x) := by
  have spread : outer.apply (inner.apply x) =
      max (outer.apply inner.lo)
        (min (outer.apply inner.hi) (outer.apply (x + inner.shift))) := by
    rw [apply.eq_def inner, outer.apply_mono.map_max, outer.apply_mono.map_min]
  rw [spread, apply.eq_def outer (x + inner.shift),
    clamp_clamp (outer.lo_le_apply _) (outer.apply_le_hi _), add_assoc]
  rfl

/-- The steps in order, after `first`. -/
def sequence (first : ClampedShift G) (steps : List (ClampedShift G)) : ClampedShift G :=
  steps.foldl (fun before step => step.comp before) first

theorem sequence_apply (first : ClampedShift G) (steps : List (ClampedShift G)) (x : G) :
    (sequence first steps).apply x =
      steps.foldl (fun value step => step.apply value) (first.apply x) := by
  induction steps generalizing first with
  | nil => rfl
  | cons step rest ih =>
    have next := ih (step.comp first)
    rwa [comp_apply] at next

theorem sequence_shift (first : ClampedShift G) (steps : List (ClampedShift G)) :
    (sequence first steps).shift = first.shift + (steps.map shift).sum := by
  induction steps generalizing first with
  | nil => simp [sequence]
  | cons step rest ih =>
    have next := ih (step.comp first)
    simpa [sequence, comp, add_assoc] using next

theorem sequence_within (first : ClampedShift G) (steps : List (ClampedShift G)) (a b : G)
    (low : a ≤ first.lo) (high : first.hi ≤ b)
    (within : ∀ step ∈ steps, a ≤ step.lo ∧ step.hi ≤ b) :
    a ≤ (sequence first steps).lo ∧ (sequence first steps).hi ≤ b := by
  induction steps generalizing first with
  | nil => exact ⟨low, high⟩
  | cons step rest ih =>
    have here := within step (by simp)
    exact ih (step.comp first) (here.1.trans (step.lo_le_apply _))
      ((step.apply_le_hi _).trans here.2)
      fun later member => within later (List.mem_cons_of_mem _ member)

end Ordered

end ClampedShift

import Mathlib.Data.List.Chain
import Mathlib.Data.List.Forall2

set_option autoImplicit false

namespace RateGate

def clock (t : Nat) : UInt32 :=
  UInt32.ofNat t

@[simp] theorem clock_toNat (t : Nat) : (clock t).toNat = t % 4294967296 := by
  simp [clock]

theorem elapsed {earlier now : Nat} (ordered : earlier ≤ now) :
    (clock now - clock earlier).toNat = (now - earlier) % 4294967296 := by
  rw [UInt32.toNat_sub, clock_toNat, clock_toNat]
  omega

-- The real times of the two readings, the second made only when the gate opens.
structure Visit where
  test : Nat
  reread : Nat
  deriving DecidableEq, Repr

structure Entry where
  start : Nat
  stored : Nat
  deriving DecidableEq, Repr

def visit (period last : UInt32) (v : Visit) : UInt32 × Option Entry :=
  if clock v.test - last ≥ period then (clock v.reread, some ⟨v.test, v.reread⟩)
  else (last, none)

def entries (period : UInt32) : UInt32 → List Visit → List Entry
  | _, [] => []
  | last, v :: rest =>
      (visit period last v).2.toList ++ entries period (visit period last v).1 rest

-- The calls whose visit finds the gate open.
def opened {β : Type} (gate : β → Visit) (period : UInt32) : UInt32 → List β → List β
  | _, [] => []
  | last, call :: rest =>
      match visit period last (gate call) with
      | (last, some _) => call :: opened gate period last rest
      | (last, none) => opened gate period last rest

def Chronological : Nat → List Visit → Prop
  | _, [] => True
  | now, v :: rest => now ≤ v.test ∧ v.test ≤ v.reread ∧ Chronological v.reread rest

theorem visit_cases (period last : UInt32) (v : Visit) :
    visit period last v = (clock v.reread, some ⟨v.test, v.reread⟩) ∨
      visit period last v = (last, none) := by
  by_cases reached : clock v.test - last ≥ period
  · exact .inl (if_pos reached)
  · exact .inr (if_neg reached)

theorem visit_spaced {period : UInt32} {stored : Nat} {v : Visit} {next : UInt32} {entry : Entry}
    (ordered : stored ≤ v.test) (opens : visit period (clock stored) v = (next, some entry)) :
    stored + period.toNat ≤ v.test := by
  unfold visit at opens
  split at opens
  next reached =>
    have enough : period.toNat ≤ (clock v.test - clock stored).toNat :=
      UInt32.le_iff_toNat_le.1 reached
    rw [elapsed ordered] at enough
    have residue := Nat.mod_le (v.test - stored) 4294967296
    omega
  next => cases opens

theorem opened_map {β γ : Type} (gate : γ → Visit) (f : β → γ) (period last : UInt32)
    (calls : List β) :
    opened gate period last (calls.map f) = (opened (gate ∘ f) period last calls).map f := by
  induction calls generalizing last with
  | nil => rfl
  | cons call rest ih =>
    rw [List.map_cons, opened, opened, Function.comp_apply]
    rcases visit_cases period last (gate (f call)) with opens | shut
    · simp [opens, ih]
    · simp [shut, ih]

theorem opened_related {β : Type} {R : β → β → Prop} {gate : β → Visit} {calls others : List β}
    (related : calls.Forall₂ (fun call other => gate other = gate call ∧ R call other) others)
    (period last : UInt32) :
    (opened gate period last calls).Forall₂ R (opened gate period last others) := by
  induction related generalizing last with
  | nil => exact .nil
  | @cons call other _ _ first _ ih =>
    rw [opened, opened, first.1]
    rcases visit_cases period last (gate call) with opens | shut
    · simpa [opens] using ⟨first.2, ih (clock (gate call).reread)⟩
    · simpa [shut] using ih last

theorem entries_spaced (period : UInt32) (visits : List Visit) (stored now : Nat)
    (past : stored ≤ now) (chronological : Chronological now visits) :
    (∀ entry ∈ entries period (clock stored) visits, stored + period.toNat ≤ entry.start) ∧
      (entries period (clock stored) visits).Pairwise
        (fun p q => p.start ≤ p.stored ∧ p.stored + period.toNat ≤ q.start) := by
  induction visits generalizing stored now with
  | nil => simp [entries]
  | cons v rest ih =>
    obtain ⟨ordered, within, later⟩ := chronological
    rw [entries]
    rcases visit_cases period (clock stored) v with opens | shut
    · have spaced := visit_spaced (past.trans ordered) opens
      obtain ⟨bound, pairwise⟩ := ih v.reread v.reread (Nat.le_refl _) later
      rw [opens]
      refine ⟨?_, List.pairwise_cons.2 ⟨fun q member => ⟨within, bound q member⟩, pairwise⟩⟩
      intro q member
      rcases List.mem_cons.1 member with rfl | after
      · exact spaced
      · have := bound q after
        omega
    · rw [shut]
      exact ih stored v.reread (by omega) later

theorem visit_reached {period : UInt32} {stored : Nat} {v : Visit}
    (due : stored + period.toNat ≤ v.test) (fresh : v.test - stored < 4294967296) :
    visit period (clock stored) v = (clock v.reread, some ⟨v.test, v.reread⟩) := by
  have reached : clock v.test - clock stored ≥ period := by
    apply UInt32.le_iff_toNat_le.2
    rw [elapsed (by omega), Nat.mod_eq_of_lt fresh]
    omega
  rw [visit, if_pos reached]

-- The real time of the reading a run leaves stored, given the one it started with.
def lastStored (stored : Nat) (passed : List Entry) : Nat :=
  (passed.map Entry.stored).getLastD stored

theorem lastStored_cons (stored : Nat) (entry : Entry) (passed : List Entry) :
    lastStored stored (entry :: passed) = lastStored entry.stored passed := by
  simp only [lastStored, List.map_cons, List.getLastD_cons]

theorem entries_append (period : UInt32) (stored : Nat) (earlier later : List Visit) :
    entries period (clock stored) (earlier ++ later) =
      entries period (clock stored) earlier ++
        entries period (clock (lastStored stored (entries period (clock stored) earlier)))
          later := by
  induction earlier generalizing stored with
  | nil => rfl
  | cons v earlier ih =>
    rw [List.cons_append, entries, entries]
    rcases visit_cases period (clock stored) v with opens | shut
    · simp only [opens, Option.toList_some, List.cons_append, List.nil_append, lastStored_cons,
        ih v.reread]
    · rw [shut, ih stored]
      rfl

theorem entries_due {period : UInt32} {stored : Nat} {v : Visit} (earlier later : List Visit)
    (due : lastStored stored (entries period (clock stored) earlier) + period.toNat ≤ v.test)
    (fresh : v.test - lastStored stored (entries period (clock stored) earlier) < 4294967296) :
    ∃ rest, entries period (clock stored) (earlier ++ v :: later) =
      entries period (clock stored) earlier ++ ⟨v.test, v.reread⟩ :: rest := by
  rw [entries_append, entries, visit_reached due fresh]
  exact ⟨_, rfl⟩

theorem spaced_span {period : Nat} {first : Entry} {rest : List Entry} {bound : Nat}
    (spaced : (first :: rest).Pairwise fun p q => p.start + period ≤ q.start)
    (inside : ∀ entry ∈ first :: rest, entry.start ≤ bound) :
    first.start + rest.length * period ≤ bound := by
  induction rest generalizing first with
  | nil => simpa using inside first (by simp)
  | cons next rest ih =>
    obtain ⟨before, later⟩ := List.pairwise_cons.1 spaced
    have apart := before next (by simp)
    have span := ih later fun entry member => inside entry (List.mem_cons_of_mem first member)
    rw [List.length_cons, Nat.succ_mul]
    omega

/-- Spaced entries fit a window of any length at most once per period and once more. -/
theorem window_length {period : Nat} {passed : List Entry} (positive : 0 < period)
    (spaced : passed.Pairwise fun p q => p.start + period ≤ q.start) (opening width : Nat) :
    (passed.filter fun entry =>
      decide (opening ≤ entry.start ∧ entry.start ≤ opening + width)).length ≤
        width / period + 1 := by
  have kept := spaced.filter fun entry =>
    decide (opening ≤ entry.start ∧ entry.start ≤ opening + width)
  have inside : ∀ entry ∈ passed.filter fun entry =>
      decide (opening ≤ entry.start ∧ entry.start ≤ opening + width),
      opening ≤ entry.start ∧ entry.start ≤ opening + width := by
    intro entry member
    simpa using (List.mem_filter.1 member).2
  generalize passed.filter _ = window at kept inside ⊢
  cases window with
  | nil => simp
  | cons first rest =>
    have span := spaced_span kept fun entry member => (inside entry member).2
    have start := (inside first (by simp)).1
    rw [List.length_cons, Nat.add_le_add_iff_right, Nat.le_div_iff_mul_le positive]
    omega

end RateGate

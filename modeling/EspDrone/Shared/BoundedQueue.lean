set_option autoImplicit false

structure BoundedQueue (α C : Type) where
  new : Nat → C
  contents : C → List α
  room : C → Nat
  write : C → List α → C
  remove : C → Nat → C
  resize : C → Nat → C
  contents_new : ∀ size, contents (new size) = []
  -- One of the cells of a ring stays free.
  room_new : ∀ size, room (new size) = size - 1
  contents_write : ∀ queue items,
    contents (write queue items) = contents queue ++ items.take (room queue)
  room_write : ∀ queue items, room (write queue items) = room queue - items.length
  contents_remove : ∀ queue count, contents (remove queue count) = (contents queue).drop count
  room_remove : ∀ queue count,
    room (remove queue count) = room queue + min count (contents queue).length
  contents_resize : ∀ queue size, (contents queue).length < size →
    contents (resize queue size) = contents queue
  room_resize : ∀ queue size, (contents queue).length < size →
    size - 1 - (contents queue).length ≤ room (resize queue size)

namespace BoundedQueue

attribute [simp] contents_new room_new contents_write room_write contents_remove room_remove

variable {α C : Type} (api : BoundedQueue α C)

def available (queue : C) : Nat := (api.contents queue).length

def empty (queue : C) : Bool := (api.contents queue).isEmpty

def full (queue : C) : Bool := api.room queue == 0

def accepted (queue : C) (items : List α) : Nat := min items.length (api.room queue)

def peek (queue : C) (count : Nat) : List α := (api.contents queue).take count

def read (queue : C) (count : Nat) : List α × C := (api.peek queue count, api.remove queue count)

@[simp] theorem empty_iff (queue : C) : api.empty queue = true ↔ api.contents queue = [] := by
  simp [empty]

@[simp] theorem full_iff (queue : C) : api.full queue = true ↔ api.room queue = 0 := by
  simp [full]

theorem contents_write_accepted (queue : C) (items : List α) :
    api.contents (api.write queue items) =
      api.contents queue ++ items.take (api.accepted queue items) := by
  simp [accepted, Nat.min_comm]

theorem accepted_le (queue : C) (items : List α) : api.accepted queue items ≤ items.length :=
  Nat.min_le_left _ _

def capacity (queue : C) : Nat := api.room queue + api.available queue

@[simp] theorem capacity_new (size : Nat) : api.capacity (api.new size) = size - 1 := by
  simp [capacity, available]

@[simp] theorem capacity_write (queue : C) (items : List α) :
    api.capacity (api.write queue items) = api.capacity queue := by
  simp only [capacity, available, room_write, contents_write, List.length_append,
    List.length_take]
  omega

@[simp] theorem capacity_remove (queue : C) (count : Nat) :
    api.capacity (api.remove queue count) = api.capacity queue := by
  simp only [capacity, available, room_remove, contents_remove, List.length_drop]
  omega

-- resizeAdd: the size counts the free cell.
def resizeAdd (queue : C) (more : Nat) : C := api.resize queue (api.capacity queue + 1 + more)

theorem available_le_capacity (queue : C) : (api.contents queue).length ≤ api.capacity queue :=
  Nat.le_add_left _ _

@[simp] theorem contents_resizeAdd (queue : C) (more : Nat) :
    api.contents (api.resizeAdd queue more) = api.contents queue := by
  have inside := api.available_le_capacity queue
  exact api.contents_resize queue _ (by omega)

theorem room_resizeAdd (queue : C) (more : Nat) : more ≤ api.room (api.resizeAdd queue more) := by
  have inside := api.available_le_capacity queue
  have enough := api.room_resize queue (api.capacity queue + 1 + more) (by omega)
  unfold resizeAdd
  omega

theorem contents_ne_nil_of_full (queue : C) (filled : api.full queue = true)
    (cells : 0 < api.capacity queue) : api.contents queue ≠ [] := by
  intro nothing
  have none' := (api.full_iff queue).1 filled
  simp [capacity, available, none', nothing] at cells

theorem peek_append_remove (queue : C) (count : Nat) :
    api.peek queue count ++ api.contents (api.remove queue count) = api.contents queue := by
  simp [peek]

theorem write_progress (queue : C) (items : List α) (open' : api.full queue = false)
    (more : items ≠ []) : 0 < api.accepted queue items := by
  have room : api.room queue ≠ 0 := by
    intro none'
    simp [full, none'] at open'
  have items' := List.length_pos_iff.2 more
  unfold accepted
  omega

theorem contents_ne_nil_of_write (queue : C) (items : List α) (open' : api.full queue = false)
    (more : items ≠ []) : api.contents (api.write queue items) ≠ [] := by
  intro nothing
  have taken := api.write_progress queue items open' more
  have bound := api.accepted_le queue items
  rw [api.contents_write_accepted] at nothing
  have length := congrArg List.length nothing
  simp only [List.length_append, List.length_take, List.length_nil] at length
  omega

-- The contents as a list, beside the number of free cells.
def listed (α : Type) : BoundedQueue α (List α × Nat) where
  new size := ([], size - 1)
  contents := Prod.fst
  room := Prod.snd
  write queue items := (queue.1 ++ items.take queue.2, queue.2 - items.length)
  remove queue count := (queue.1.drop count, queue.2 + min count queue.1.length)
  resize queue size := (queue.1, size - 1 - queue.1.length)
  contents_new _ := rfl
  room_new _ := rfl
  contents_write _ _ := rfl
  room_write _ _ := rfl
  contents_remove _ _ := rfl
  room_remove _ _ := rfl
  contents_resize _ _ _ := rfl
  room_resize _ _ _ := Nat.le_refl _

end BoundedQueue

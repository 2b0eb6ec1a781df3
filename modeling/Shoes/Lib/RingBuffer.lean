import Mathlib.Data.List.Basic

/-!
# Ring buffers over a list

A ring buffer keeps `count` items in a store of fixed size, from position `start` on, passing
the end of the store at most once. `ringContents` reads them in order. Writing new items into
the free run after them appends them (`ringContents_fill`), and moving `start` past a part of
the run that does not wrap drops that part from the front (`ringContents_advance`): the store
is a first-in first-out queue.
-/

namespace RingBuffer

variable {α : Type*}

/-- The `count` items from `start` on, wrapping past the end of the store at most once. -/
def ringContents (store : List α) (start count : Nat) : List α :=
  if start + count ≤ store.length then (store.drop start).take count
  else store.drop start ++ store.take (start + count - store.length)

/-- `store` with `items` written from `position` on. -/
def fill (store : List α) (position : Nat) (items : List α) : List α :=
  store.take position ++ items ++ store.drop (position + items.length)

theorem mod_of_wrap {value size : Nat} (past : size ≤ value) (below : value < size + size) :
    value % size = value - size := by
  rw [Nat.mod_eq_sub_mod past, Nat.mod_eq_of_lt (by omega)]

theorem length_fill {store items : List α} {position : Nat}
    (fits : position + items.length ≤ store.length) :
    (fill store position items).length = store.length := by
  simp only [fill, List.length_append, List.length_take, List.length_drop]
  omega

theorem length_ringContents {store : List α} {start count : Nat} (inside : start ≤ store.length)
    (bounded : count ≤ store.length) : (ringContents store start count).length = count := by
  unfold ringContents
  split_ifs with within
  · simp only [List.length_take, List.length_drop]
    omega
  · simp only [List.length_append, List.length_take, List.length_drop]
    omega

@[simp] theorem ringContents_zero {store : List α} {start : Nat} (inside : start ≤ store.length) :
    ringContents store start 0 = [] := by
  rw [ringContents, if_pos (by omega), List.take_zero]

theorem ringContents_front {store : List α} {count : Nat} (bounded : count ≤ store.length) :
    ringContents store 0 count = store.take count := by
  rw [ringContents, if_pos (by omega), List.drop_zero]

theorem ringContents_of_wrap {store : List α} {start count : Nat}
    (past : store.length ≤ start + count) (inside : start ≤ store.length) :
    ringContents store start count = store.drop start ++ store.take (start + count - store.length) := by
  unfold ringContents
  split_ifs with within
  · have ends : start + count = store.length := by omega
    rw [List.take_of_length_le (by simp only [List.length_drop]; omega), ends, Nat.sub_self,
      List.take_zero, List.append_nil]
  · rfl

theorem take_fill {store items : List α} {position : Nat} (inside : position ≤ store.length) :
    (fill store position items).take (position + items.length) = store.take position ++ items := by
  have front : (store.take position).length = position := by
    simp only [List.length_take]
    omega
  rw [fill, List.take_left' (by rw [List.length_append, front])]

theorem drop_fill_of_le {store items : List α} {position later : Nat}
    (before : position + items.length ≤ later) (inside : position ≤ store.length) :
    (fill store position items).drop later = store.drop later := by
  have front : (store.take position ++ items).length = position + items.length := by
    simp only [List.length_append, List.length_take]
    omega
  rw [fill, List.drop_append, List.drop_eq_nil_of_le (by omega), List.nil_append, front,
    List.drop_drop, Nat.add_sub_cancel' before]

/-- The free run after `count` items from `start`: it starts at `(start + count) % size`, ends at
`start` once the items wrap and at the end of the store before, and is no longer than the room
left. -/
theorem freeRun_bounds {start count size : Nat} (inside : start < size) (room : count < size) :
    (start + count) % size ≤ (if (start + count) % size < start then start else size) ∧
      (if (start + count) % size < start then start else size) ≤ size ∧
      (if (start + count) % size < start then start else size) - (start + count) % size ≤
        size - count := by
  by_cases wraps : size ≤ start + count
  · rw [mod_of_wrap wraps (by omega), if_pos (by omega)]
    omega
  · rw [Nat.mod_eq_of_lt (by omega), if_neg (by omega)]
    omega

/-- Writing items into the free run after the items held appends them. The run starts at
`(start + count) % size` and ends at `start` once the items held wrap, at the end of the store
before. -/
theorem ringContents_fill {store : List α} {start count : Nat} (items : List α)
    (inside : start < store.length) (room : count + items.length ≤ store.length)
    (free : items.length ≤ (if (start + count) % store.length < start then start else store.length) -
      (start + count) % store.length) :
    ringContents (fill store ((start + count) % store.length) items) start (count + items.length) =
      ringContents store start count ++ items := by
  by_cases empty : items = []
  · subst empty
    simp only [fill, List.length_nil, Nat.add_zero, List.append_nil, List.take_append_drop]
  have some : 0 < items.length := List.length_pos_iff.mpr empty
  by_cases wraps : store.length ≤ start + count
  · -- the items held reach the end of the store: the new ones go before `start`
    have position : (start + count) % store.length = start + count - store.length :=
      mod_of_wrap wraps (by omega)
    rw [position] at free ⊢
    rw [if_pos (by omega)] at free
    have fits : start + count - store.length + items.length ≤ store.length := by omega
    have total : start + (count + items.length) - store.length =
        start + count - store.length + items.length := by omega
    rw [ringContents_of_wrap (by rw [length_fill fits]; omega) (by rw [length_fill fits]; omega),
      ringContents_of_wrap wraps (Nat.le_of_lt inside), length_fill fits, drop_fill_of_le (by omega) (by omega),
      total, take_fill (by omega), List.append_assoc]
  · -- the new items follow the held ones up to the end of the store
    have position : (start + count) % store.length = start + count := Nat.mod_eq_of_lt (by omega)
    rw [position] at free ⊢
    rw [if_neg (by omega)] at free
    have fits : start + count + items.length ≤ store.length := by omega
    have held : ((store.drop start).take count).length = count := by
      simp only [List.length_take, List.length_drop]
      omega
    unfold ringContents
    rw [length_fill fits, if_pos (by omega), if_pos (by omega), fill, List.append_assoc,
      List.drop_append_of_le_length (by simp only [List.length_take]; omega), List.drop_take,
      Nat.add_sub_cancel_left, ← List.append_assoc,
      List.take_left' (by rw [List.length_append, held])]

theorem ringContents_advance {store : List α} {start count written : Nat}
    (inside : start < store.length) (bounded : count ≤ store.length) (within : written ≤ count)
    (run : start + written ≤ store.length) :
    ringContents store start count =
      (store.drop start).take written ++
        ringContents store ((start + written) % store.length) (count - written) := by
  by_cases ends : start + written = store.length
  · -- the written items reach the end of the store: what is left starts at its front
    rw [ends, Nat.mod_self, ringContents_front (by omega),
      List.take_of_length_le (by simp only [List.length_drop]; omega)]
    by_cases wraps : store.length ≤ start + count
    · rw [ringContents_of_wrap wraps (Nat.le_of_lt inside)]
      congr 2
      omega
    · omega
  · have position : (start + written) % store.length = start + written := Nat.mod_eq_of_lt (by omega)
    rw [position]
    by_cases wraps : store.length ≤ start + count
    · rw [ringContents_of_wrap wraps (Nat.le_of_lt inside), ringContents_of_wrap (by omega) (by omega),
        ← List.append_assoc, ← List.drop_drop, List.take_append_drop]
      congr 2
      omega
    · unfold ringContents
      rw [if_pos (by omega), if_pos (by omega), ← List.drop_drop, ← List.take_add]
      congr 1
      omega

end RingBuffer

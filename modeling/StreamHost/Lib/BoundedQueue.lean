import Mathlib.Data.Nat.ModEq

/-! Bounded queues with a closed flag, and the circular rows of slots that
implement them. A queue that is too long for its bound cannot be built. -/

universe u

/-- At most `bound` items in arrival order, and whether more may arrive. -/
structure BoundedQueue (α : Type u) (bound : Nat) where
  items : List α
  closed : Bool
  fits : items.length ≤ bound

namespace BoundedQueue
variable {α : Type u} {bound : Nat}

inductive Refusal where
  | full
  | closed

def empty : BoundedQueue α bound := ⟨[], false, Nat.zero_le _⟩

/-- A closed queue refuses before a full one does. -/
def push (item : α) (queue : BoundedQueue α bound) : Except Refusal (BoundedQueue α bound) :=
  if queue.closed then .error .closed
  else if room : queue.items.length < bound then
    .ok ⟨queue.items ++ [item], queue.closed, by rw [List.length_append]; exact room⟩
  else .error .full

def pop (queue : BoundedQueue α bound) : Option α × BoundedQueue α bound :=
  match queue with
  | ⟨[], closed, fits⟩ => (none, ⟨[], closed, fits⟩)
  | ⟨item :: rest, closed, fits⟩ => (some item, ⟨rest, closed, Nat.le_of_succ_le fits⟩)

def take (limit : Nat) (queue : BoundedQueue α bound) : List α × BoundedQueue α bound :=
  (queue.items.take limit, { queue with
    items := queue.items.drop limit
    fits := by rw [List.length_drop]; exact Nat.le_trans (Nat.sub_le _ _) queue.fits })

def close (queue : BoundedQueue α bound) : BoundedQueue α bound := { queue with closed := true }

def cancel (_queue : BoundedQueue α bound) : BoundedQueue α bound := ⟨[], true, Nat.zero_le _⟩

/-- A push finds the queue open and not full. -/
def HasRoom (queue : BoundedQueue α bound) : Prop := queue.closed = false ∧ queue.items.length < bound

instance (queue : BoundedQueue α bound) : Decidable queue.HasRoom := inferInstanceAs (Decidable (_ ∧ _))

theorem push_room {queue : BoundedQueue α bound} (room : queue.HasRoom) (item : α) :
    ∃ next, queue.push item = .ok next ∧ next.items = queue.items ++ [item] := by
  refine ⟨⟨queue.items ++ [item], queue.closed, ?_⟩, ?_, rfl⟩
  · rw [List.length_append]
    exact room.2
  · rw [push, if_neg (by simp [room.1]), dif_pos room.2]

theorem push_refused {queue : BoundedQueue α bound} (refused : ¬ queue.HasRoom) (item : α) :
    ∃ refusal, queue.push item = .error refusal := by
  unfold push
  split
  · exact ⟨.closed, rfl⟩
  split
  · rename_i opened room
    exact absurd ⟨Bool.eq_false_iff.mpr opened, room⟩ refused
  · exact ⟨.full, rfl⟩

end BoundedQueue

namespace Circular
variable {α : Type u}

/-- Read from `head` on and around, the slots hold `items` and are vacant after them. -/
structure Holds (slots : List (Option α)) (head : Nat) (items : List α) : Prop where
  inRange : head < slots.length
  fits : items.length ≤ slots.length
  reads : ∀ offset, offset < slots.length → slots[(head + offset) % slots.length]? = some items[offset]?

theorem index_injective {size head first second : Nat} (firstIn : first < size) (secondIn : second < size)
    (same : (head + first) % size = (head + second) % size) : first = second := by
  have congruent : first ≡ second [MOD size] := Nat.ModEq.add_left_cancel' head same
  exact congruent.eq_of_lt_of_lt firstIn secondIn

theorem index_advance (size head offset : Nat) : ((head + 1) % size + offset) % size = (head + (offset + 1)) % size := by
  rw [Nat.mod_add_mod, Nat.add_assoc, Nat.add_comm 1 offset]

theorem index_reaches {size head slot : Nat} (headIn : head < size) (slotIn : slot < size) :
    ∃ offset, offset < size ∧ (head + offset) % size = slot := by
  by_cases ahead : head ≤ slot
  · refine ⟨slot - head, by omega, ?_⟩
    rw [Nat.add_sub_cancel' ahead, Nat.mod_eq_of_lt slotIn]
  · refine ⟨size + slot - head, by omega, ?_⟩
    rw [Nat.add_sub_cancel' (by omega), Nat.add_mod_left, Nat.mod_eq_of_lt slotIn]

variable {slots : List (Option α)} {head : Nat} {items : List α}

theorem Holds.vacant {size : Nat} (positive : 0 < size) : Holds (List.replicate size (none : Option α)) 0 [] where
  inRange := by rwa [List.length_replicate]
  fits := Nat.zero_le _
  reads offset within := by
    rw [List.length_replicate] at within ⊢
    simp [Nat.mod_lt, positive]

theorem Holds.occupied_iff (holds : Holds slots head items) {slot : Nat} (within : slot < slots.length) :
    (∃ item, slots[slot]? = some (some item)) ↔
      ∃ offset, offset < items.length ∧ slot = (head + offset) % slots.length := by
  obtain ⟨offset, offsetIn, rfl⟩ := index_reaches holds.inRange within
  rw [holds.reads offset offsetIn]
  constructor
  · rintro ⟨item, same⟩
    exact ⟨offset, (List.getElem?_eq_some_iff.mp (Option.some.inj same)).1, rfl⟩
  · rintro ⟨other, otherIn, same⟩
    obtain rfl := index_injective offsetIn (Nat.lt_of_lt_of_le otherIn holds.fits) same
    exact ⟨items[offset], congrArg some (List.getElem?_eq_getElem otherIn)⟩

theorem Holds.push (holds : Holds slots head items) (room : items.length < slots.length) (item : α) :
    Holds (slots.set ((head + items.length) % slots.length) (some item)) head (items ++ [item]) where
  inRange := by rw [List.length_set]; exact holds.inRange
  fits := by rw [List.length_set, List.length_append]; exact room
  reads offset within := by
    rw [List.length_set] at within ⊢
    rw [List.getElem?_set]
    by_cases last : offset = items.length
    · subst last
      rw [if_pos rfl, if_pos (Nat.mod_lt _ (Nat.zero_lt_of_lt within)), List.getElem?_concat_length]
    · rw [if_neg fun same => last (index_injective room within same).symm, holds.reads offset within]
      rcases Nat.lt_or_ge offset items.length with before | after
      · rw [List.getElem?_append_left before]
      · rw [List.getElem?_eq_none after, List.getElem?_eq_none (by simp; omega)]

theorem Holds.front {item : α} (holds : Holds slots head (item :: items)) : slots[head]? = some (some item) := by
  have first := holds.reads 0 (Nat.zero_lt_of_lt holds.inRange)
  rwa [Nat.add_zero, Nat.mod_eq_of_lt holds.inRange] at first

theorem Holds.pop {item : α} (holds : Holds slots head (item :: items)) :
    Holds (slots.set head none) ((head + 1) % slots.length) items where
  inRange := by rw [List.length_set]; exact Nat.mod_lt _ (Nat.zero_lt_of_lt holds.inRange)
  fits := by rw [List.length_set]; exact Nat.le_of_succ_le holds.fits
  reads offset within := by
    rw [List.length_set] at within ⊢
    have self : head = (head + 0) % slots.length := (Nat.mod_eq_of_lt holds.inRange).symm
    rw [index_advance, List.getElem?_set]
    rcases Nat.lt_or_ge (offset + 1) slots.length with inside | around
    · -- The places before the wrap keep their items, one place closer to the head.
      rw [if_neg ?_, holds.reads _ inside, List.getElem?_cons_succ]
      intro same
      exact absurd (index_injective (Nat.zero_lt_of_lt within) inside (self.symm.trans same))
        (Nat.succ_ne_zero offset).symm
    · -- The last place is the slot just vacated.
      have last : offset + 1 = slots.length := by omega
      have short := holds.fits
      rw [List.length_cons] at short
      rw [last, Nat.add_mod_right, Nat.mod_eq_of_lt holds.inRange, if_pos rfl, if_pos holds.inRange,
        List.getElem?_eq_none (by omega)]

end Circular

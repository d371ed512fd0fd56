import Mathlib.Data.List.Rotate
import Mathlib.Tactic

namespace RingBuffers

variable {α : Type*}

/-- The elements of a ring of slots, from the slot at `head` on. -/
def contents (slots : List α) (head count : Nat) : List α := (slots.rotate head).take count

variable {slots : List α} {head count : Nat}

theorem length_contents (h : count ≤ slots.length) : (contents slots head count).length = count := by
  rw [contents, List.length_take, List.length_rotate, Nat.min_eq_left h]

theorem getElem?_contents {offset : Nat} (head : Nat) (hcount : offset < count) (h : count ≤ slots.length) :
    (contents slots head count)[offset]? = slots[(head + offset) % slots.length]? := by
  rw [contents, List.getElem?_take_of_lt hcount, List.getElem?_rotate (by omega), Nat.add_comm]

@[simp] theorem contents_zero : contents slots head 0 = [] := List.take_zero

/-- Two offsets below the length stand for two slots. -/
theorem offset_eq {length first second : Nat} (hfirst : first < length) (hsecond : second < length)
    (h : (head + first) % length = (head + second) % length) : first = second := by
  have hmod : first % length = second % length := Nat.ModEq.add_left_cancel' head h
  rw [Nat.mod_eq_of_lt hfirst, Nat.mod_eq_of_lt hsecond] at hmod
  exact hmod

/-- A slot behind the elements can be written. -/
theorem contents_set_free {offset : Nat} (value : α) (hoffset : count ≤ offset)
    (hlength : offset < slots.length) :
    contents (slots.set ((head + offset) % slots.length) value) head count = contents slots head count := by
  refine List.ext_getElem? fun position => ?_
  by_cases hposition : position < count
  · have hset : count ≤ (slots.set ((head + offset) % slots.length) value).length := by
      rw [List.length_set]
      omega
    have hne : (head + offset) % slots.length ≠ (head + position) % slots.length := by
      intro heq
      have hsame := offset_eq hlength (by omega) heq
      omega
    rw [getElem?_contents _ hposition hset, getElem?_contents _ hposition (by omega), List.length_set,
      List.getElem?_set_ne hne]
  · have hlong : (contents (slots.set ((head + offset) % slots.length) value) head count).length ≤
        position := by
      rw [length_contents (by rw [List.length_set]; omega)]
      omega
    have hshort : (contents slots head count).length ≤ position := by
      rw [length_contents (by omega)]
      omega
    rw [List.getElem?_eq_none hlong, List.getElem?_eq_none hshort]

/-- The slot behind the last element takes the next one. -/
theorem contents_push (value : α) (h : count < slots.length) :
    contents (slots.set ((head + count) % slots.length) value) head (count + 1) =
      contents slots head count ++ [value] := by
  have hset : (slots.set ((head + count) % slots.length) value).length = slots.length := List.length_set
  have hlast : ((slots.set ((head + count) % slots.length) value).rotate head)[count]? = some value := by
    rw [List.getElem?_rotate (by omega), hset, Nat.add_comm count head]
    exact List.getElem?_set_self (Nat.mod_lt _ (by omega))
  have hinit : contents (slots.set ((head + count) % slots.length) value) head count =
      contents slots head count := contents_set_free value (Nat.le_refl count) h
  unfold contents at hinit ⊢
  rw [List.take_add_one, hlast, hinit, Option.toList_some]

/-- The ring from a later slot on. -/
theorem contents_drop {taken : Nat} (htaken : taken ≤ count) (h : count ≤ slots.length) :
    contents slots ((head + taken) % slots.length) (count - taken) =
      (contents slots head count).drop taken := by
  refine List.ext_getElem? fun position => ?_
  by_cases hposition : position < count - taken
  · rw [getElem?_contents _ hposition (by omega), List.getElem?_drop, getElem?_contents _ (by omega) h,
      Nat.mod_add_mod, Nat.add_assoc]
  · have hlong : (contents slots ((head + taken) % slots.length) (count - taken)).length ≤ position := by
      rw [length_contents (by omega)]
      omega
    have hshort : ((contents slots head count).drop taken).length ≤ position := by
      rw [List.length_drop, length_contents h]
      omega
    rw [List.getElem?_eq_none hlong, List.getElem?_eq_none hshort]

end RingBuffers

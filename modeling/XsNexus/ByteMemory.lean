import Mathlib.Tactic

namespace ByteMemory

variable {α : Type*}

/-- Reads a part of a memory; `none` for an access beyond it. -/
def load (memory : List α) (offset length : Nat) : Option (List α) :=
  if offset + length ≤ memory.length then some ((memory.drop offset).take length) else none

/-- Overwrites a part of a memory; `none` for an access beyond it. -/
def store (memory : List α) (offset : Nat) (bytes : List α) : Option (List α) :=
  if offset + bytes.length ≤ memory.length then
    some (memory.take offset ++ bytes ++ memory.drop (offset + bytes.length))
  else none

theorem load_eq {memory : List α} {offset length : Nat} (h : offset + length ≤ memory.length) :
    load memory offset length = some ((memory.drop offset).take length) := if_pos h

theorem load_append (first bytes last : List α) :
    load (first ++ bytes ++ last) first.length bytes.length = some bytes := by
  have hle : first.length + bytes.length ≤ (first ++ bytes ++ last).length := by
    simp only [List.length_append]
    omega
  rw [load_eq hle, List.append_assoc, List.drop_left, List.take_left]

theorem store_append (first old bytes last : List α) (h : old.length = bytes.length) :
    store (first ++ old ++ last) first.length bytes = some (first ++ bytes ++ last) := by
  have hle : first.length + bytes.length ≤ (first ++ old ++ last).length := by
    simp only [List.length_append]
    omega
  have hfirst : (first ++ old ++ last).take first.length = first := by
    rw [List.append_assoc, List.take_left]
  have hlast : (first ++ old ++ last).drop (first.length + bytes.length) = last := by
    rw [← h, ← List.length_append, List.drop_left]
  rw [store, if_pos hle, hfirst, hlast]

/-- The number that bytes stand for, the lowest first. -/
def leNat : List UInt8 → Nat
  | [] => 0
  | byte :: bytes => byte.toNat + 256 * leNat bytes

def leBytes : Nat → Nat → List UInt8
  | 0, _ => []
  | count + 1, value => UInt8.ofNat value :: leBytes count (value / 256)

@[simp] theorem length_leBytes (count value : Nat) : (leBytes count value).length = count := by
  induction count generalizing value with
  | zero => rfl
  | succ count ih => rw [leBytes, List.length_cons, ih]

theorem leNat_leBytes {count value : Nat} (h : value < 256 ^ count) : leNat (leBytes count value) = value := by
  induction count generalizing value with
  | zero =>
    rw [Nat.pow_zero] at h
    rw [leBytes, leNat]
    omega
  | succ count ih =>
    have hrest : value / 256 < 256 ^ count := by
      rw [Nat.pow_succ] at h
      exact Nat.div_lt_of_lt_mul (by omega)
    rw [leBytes, leNat, ih hrest, UInt8.toNat_ofNat']
    omega

theorem leBytes_leNat (bytes : List UInt8) : leBytes bytes.length (leNat bytes) = bytes := by
  induction bytes with
  | nil => rfl
  | cons byte bytes ih =>
    have hbyte := byte.toNat_lt
    have hlow : UInt8.ofNat (byte.toNat + 256 * leNat bytes) = byte := by
      rw [← UInt8.toNat_inj, UInt8.toNat_ofNat']
      omega
    have hrest : (byte.toNat + 256 * leNat bytes) / 256 = leNat bytes := by omega
    rw [List.length_cons, leNat, leBytes, hlow, hrest, ih]

theorem leNat_lt (bytes : List UInt8) : leNat bytes < 256 ^ bytes.length := by
  induction bytes with
  | nil => exact Nat.one_pos
  | cons byte bytes ih =>
    have hbyte := byte.toNat_lt
    rw [leNat, List.length_cons, Nat.pow_succ]
    omega

end ByteMemory

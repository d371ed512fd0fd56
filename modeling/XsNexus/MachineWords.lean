import Mathlib.Tactic

namespace MachineWords

def u32CheckedAdd (a b : UInt32) : Option UInt32 :=
  if a.toNat + b.toNat < 2 ^ 32 then some (a + b) else none

def u64CheckedAdd (a b : UInt64) : Option UInt64 :=
  if a.toNat + b.toNat < 2 ^ 64 then some (a + b) else none

def u32Max : UInt32 := UInt32.ofNat (2 ^ 32 - 1)

def u64Max : UInt64 := UInt64.ofNat (2 ^ 64 - 1)

def usizeMax : Nat := 2 ^ 64 - 1

def usizeCheckedAdd (a b : Nat) : Option Nat := if a + b ≤ usizeMax then some (a + b) else none

def u8SaturatingAdd (a b : UInt8) : UInt8 := UInt8.ofNat (min (a.toNat + b.toNat) (2 ^ 8 - 1))

def u16SaturatingAdd (a b : UInt16) : UInt16 := UInt16.ofNat (min (a.toNat + b.toNat) (2 ^ 16 - 1))

def u32SaturatingAdd (a b : UInt32) : UInt32 := UInt32.ofNat (min (a.toNat + b.toNat) (2 ^ 32 - 1))

def u64SaturatingAdd (a b : UInt64) : UInt64 := UInt64.ofNat (min (a.toNat + b.toNat) (2 ^ 64 - 1))

def usizeSaturatingAdd (a b : Nat) : Nat := min (a + b) usizeMax

def usizeSaturatingMul (a b : Nat) : Nat := min (a * b) usizeMax

def u32SaturatingSub (a b : UInt32) : UInt32 := if b ≤ a then a - b else 0

def u64AbsDiff (a b : UInt64) : UInt64 := if a < b then b - a else a - b

/-- `u64::try_from` on a `usize` -/
def u64TryFrom (v : Nat) : Option UInt64 := if v < 2 ^ 64 then some (UInt64.ofNat v) else none

theorem u32CheckedAdd_eq_some {a b sum : UInt32} (h : u32CheckedAdd a b = some sum) :
    sum.toNat = a.toNat + b.toNat := by
  unfold u32CheckedAdd at h
  split at h
  next hlt =>
    cases Option.some.inj h
    rw [UInt32.toNat_add, Nat.mod_eq_of_lt hlt]
  next => simp at h

theorem u64CheckedAdd_eq_some {a b sum : UInt64} (h : u64CheckedAdd a b = some sum) :
    sum.toNat = a.toNat + b.toNat := by
  unfold u64CheckedAdd at h
  split at h
  next hlt =>
    cases Option.some.inj h
    rw [UInt64.toNat_add, Nat.mod_eq_of_lt hlt]
  next => simp at h

theorem u64CheckedAdd_one_eq_none {a : UInt64} : u64CheckedAdd a 1 = none ↔ a = u64Max := by
  have hmax : u64Max.toNat = 2 ^ 64 - 1 := by decide
  have hone : (1 : UInt64).toNat = 1 := by decide
  have hlt := a.toNat_lt
  rw [← UInt64.toNat_inj, hmax]
  unfold u64CheckedAdd
  rw [hone]
  split
  next hsum => simp only [reduceCtorEq, false_iff]; omega
  next hsum => simp only [true_iff]; omega

theorem toNat_u64SaturatingAdd (a b : UInt64) :
    (u64SaturatingAdd a b).toNat = min (a.toNat + b.toNat) (2 ^ 64 - 1) := by
  have hlt : min (a.toNat + b.toNat) (2 ^ 64 - 1) < 2 ^ 64 := by omega
  rw [u64SaturatingAdd, UInt64.toNat_ofNat', Nat.mod_eq_of_lt hlt]

theorem toNat_u64AbsDiff (a b : UInt64) :
    (u64AbsDiff a b).toNat = (a.toNat - b.toNat) + (b.toNat - a.toNat) := by
  unfold u64AbsDiff
  split
  next h =>
    have hlt := UInt64.lt_iff_toNat_lt.mp h
    rw [UInt64.toNat_sub_of_le _ _ (UInt64.le_of_lt h)]
    omega
  next h =>
    have hle := UInt64.not_lt.mp h
    have hle' := UInt64.le_iff_toNat_le.mp hle
    rw [UInt64.toNat_sub_of_le _ _ hle]
    omega

theorem usizeSaturatingAdd_of_le {a b limit : Nat} (h : usizeSaturatingAdd a b ≤ limit)
    (hl : limit < usizeMax) : usizeSaturatingAdd a b = a + b := by
  unfold usizeSaturatingAdd at *
  omega

end MachineWords

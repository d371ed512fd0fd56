import XsNexus.SubnetRoutes
import Mathlib.Order.CompletePartialOrder

namespace XsNexus

namespace Ipv4Net

/-- The addresses a prefix covers. -/
def addresses (net : Ipv4Net) : Set Ipv4Addr := {address | net.contains address = true}

theorem mem_addresses {net : Ipv4Net} {address : Ipv4Addr} :
    address ∈ net.addresses ↔ net.contains address = true := Iff.rfl

theorem contains_iff {net : Ipv4Net} {address : Ipv4Addr} : net.contains address = true ↔
    net.network.bits.toNat ≤ address.bits.toNat ∧ address.bits.toNat ≤ net.broadcast.bits.toNat := by
  unfold contains
  rw [decide_eq_true_eq, BitVec.le_def, BitVec.le_def]

theorem network_le_broadcast (net : Ipv4Net) :
    net.network.bits.toNat ≤ net.broadcast.bits.toNat := by
  have hlow : net.network.bits.toNat ≤ net.addr.bits.toNat := by
    unfold network
    rw [BitVec.toNat_and]
    exact Nat.and_le_left
  have hhigh : net.addr.bits.toNat ≤ net.broadcast.bits.toNat := by
    unfold broadcast
    rw [BitVec.toNat_or]
    exact Nat.left_le_or
  exact hlow.trans hhigh

theorem network_mem (net : Ipv4Net) : net.network ∈ net.addresses :=
  contains_iff.mpr ⟨Nat.le_refl _, net.network_le_broadcast⟩

theorem broadcast_mem (net : Ipv4Net) : net.broadcast ∈ net.addresses :=
  contains_iff.mpr ⟨net.network_le_broadcast, Nat.le_refl _⟩

/-- The prefix with its host bits cleared. -/
def trunc (net : Ipv4Net) : Ipv4Net := ⟨net.network, net.prefixLen, net.prefixLen_le⟩

theorem hostmask_injective {left right : Ipv4Net} (h : left.hostmask = right.hostmask) :
    left.prefixLen = right.prefixLen := by
  have hall : ∀ m < 33, ∀ n < 33, BitVec.allOnes 32 >>> m = BitVec.allOnes 32 >>> n → m = n := by
    decide +kernel
  have hleft := left.prefixLen_le
  have hright := right.prefixLen_le
  exact hall left.prefixLen (by omega) right.prefixLen (by omega) h

theorem network_xor_broadcast (net : Ipv4Net) :
    net.network.bits ^^^ net.broadcast.bits = net.hostmask := by
  unfold network broadcast
  ext i hi
  simp only [BitVec.getElem_xor, BitVec.getElem_and, BitVec.getElem_or, BitVec.getElem_not]
  cases net.addr.bits[i] <;> cases net.hostmask[i] <;> rfl

theorem network_trunc (net : Ipv4Net) : net.trunc.network = net.network := by
  show Ipv4Addr.mk (net.network.bits &&& ~~~net.hostmask) = net.network
  unfold network
  rw [BitVec.and_assoc, BitVec.and_self]

theorem broadcast_trunc (net : Ipv4Net) : net.trunc.broadcast = net.broadcast := by
  show Ipv4Addr.mk (net.network.bits ||| net.hostmask) = net.broadcast
  unfold network broadcast
  congr 1
  ext i hi
  simp only [BitVec.getElem_and, BitVec.getElem_or, BitVec.getElem_not]
  cases net.addr.bits[i] <;> cases net.hostmask[i] <;> rfl

theorem addresses_trunc (net : Ipv4Net) : net.trunc.addresses = net.addresses := by
  ext address
  rw [mem_addresses, mem_addresses, contains_iff, contains_iff, network_trunc, broadcast_trunc]

/-- Prefixes that cover the same addresses differ in their host bits alone. -/
theorem addresses_eq_iff {left right : Ipv4Net} :
    left.addresses = right.addresses ↔ left.trunc = right.trunc := by
  constructor
  · intro h
    obtain ⟨hfirst, _⟩ := contains_iff.mp (h ▸ left.network_mem)
    obtain ⟨hfirst', _⟩ := contains_iff.mp (h ▸ right.network_mem)
    obtain ⟨_, hlast⟩ := contains_iff.mp (h ▸ left.broadcast_mem)
    obtain ⟨_, hlast'⟩ := contains_iff.mp (h ▸ right.broadcast_mem)
    have hnetwork : left.network.bits = right.network.bits :=
      BitVec.eq_of_toNat_eq (Nat.le_antisymm hfirst' hfirst)
    have hbroadcast : left.broadcast.bits = right.broadcast.bits :=
      BitVec.eq_of_toNat_eq (Nat.le_antisymm hlast hlast')
    have hmask : left.hostmask = right.hostmask := by
      rw [← network_xor_broadcast, ← network_xor_broadcast, hnetwork, hbroadcast]
    have hlength := hostmask_injective hmask
    have haddress : left.network = right.network := congrArg Ipv4Addr.mk hnetwork
    unfold trunc
    simp only [haddress, hlength]
  · intro h
    rw [← addresses_trunc left, ← addresses_trunc right, h]

end Ipv4Net

/-- Looking at the network addresses is enough to see every shared address. -/
theorem networksOverlap_iff {left right : Ipv4Net} :
    networksOverlap left right = true ↔ ∃ address, address ∈ left.addresses ∧ address ∈ right.addresses := by
  unfold networksOverlap
  rw [Bool.or_eq_true]
  constructor
  · rintro (h | h)
    · exact ⟨right.network, h, right.network_mem⟩
    · exact ⟨left.network, left.network_mem, h⟩
  · rintro ⟨address, hleft, hright⟩
    obtain ⟨hl, hl'⟩ := Ipv4Net.contains_iff.mp hleft
    obtain ⟨hr, hr'⟩ := Ipv4Net.contains_iff.mp hright
    by_cases horder : left.network.bits.toNat ≤ right.network.bits.toNat
    · exact Or.inl (Ipv4Net.contains_iff.mpr ⟨horder, by omega⟩)
    · exact Or.inr (Ipv4Net.contains_iff.mpr ⟨by omega, by omega⟩)

theorem not_networksOverlap_iff {left right : Ipv4Net} :
    networksOverlap left right = false ↔ Disjoint left.addresses right.addresses := by
  rw [Set.disjoint_left, ← Bool.not_eq_true, networksOverlap_iff]
  constructor
  · intro h address hleft hright
    exact h ⟨address, hleft, hright⟩
  · rintro h ⟨address, hleft, hright⟩
    exact h hleft hright

end XsNexus

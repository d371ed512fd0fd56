import XsNexus.RateWindows
import XsNexus.RelayReplay

namespace XsNexus

open ByteCodec FiniteMap MachineWords RateWindows Runs

/-- A datagram accepted for a lease: when, how long, and when the accounting window it counts in was
opened. -/
structure Admission where
  instant : Nat
  size : Nat
  window : Option Nat
deriving DecidableEq

/-- The instant and the size of a datagram of the lease that a call accepts. -/
def admitted (leaseId : Block 16) : RelayOp × RelayOutput → Option (Nat × Nat)
  | (.data clock datagram _, .data (.ok _)) =>
    if (parseRelayFrame datagram).any fun frame => frame.leaseId = leaseId then
      some (clock.instant, datagram.length)
    else none
  | (.keepalive clock datagram _, .keepalive (.ok _)) =>
    if (parseRelayKeepalive datagram).any fun frame => frame.leaseId = leaseId then
      some (clock.instant, datagram.length)
    else none
  | _ => none

def trafficOf (s : RelayServer) (leaseId : Block 16) : Option TrafficBudget :=
  (s.leases.lookup leaseId).map Lease.traffic

def admission (leaseId : Block 16) (event : RelayOp × RelayOutput) (after : RelayServer) :
    Option Admission :=
  (admitted leaseId event).map fun taken =>
    ⟨taken.1, taken.2, (trafficOf after leaseId).map TrafficBudget.windowStarted⟩

/-- The datagrams a run accepts for a lease, in order. -/
def admissions (c : Crypto) (leaseId : Block 16) : RelayServer → List RelayOp → List Admission
  | _, [] => []
  | s, op :: ops =>
    (admission leaseId (op, (s.apply c op).1) (s.apply c op).2).toList ++
      admissions c leaseId (s.apply c op).2 ops

section Budgets

variable {config : RelayConfig} {budget : TrafficBudget} {older current : List Admission}

/-- The budget of a lease accounts for what was accepted in its window. -/
structure Accounts (config : RelayConfig) (budget : TrafficBudget) (older current : List Admission) :
    Prop where
  packets : Metered Admission.instant (fun _ => 1) (fun taken => taken.window.getD 0) trafficWindow
    config.packetsPerLeasePerSecond.toNat budget.windowStarted older current
  bytes : Metered Admission.instant Admission.size (fun taken => taken.window.getD 0) trafficWindow
    config.bytesPerLeasePerSecond.toNat budget.windowStarted older current
  counted : current.length ≤ budget.packets.toNat
  summed : load Admission.size current ≤ budget.bytes.toNat

theorem Accounts.new (config : RelayConfig) (budget : TrafficBudget) : Accounts config budget [] [] :=
  ⟨.start _, .start _, Nat.zero_le _, Nat.zero_le _⟩

theorem u64TryFrom_any {value : Nat} {limit : UInt64} (test : UInt64 → UInt64)
    (h : ((u64TryFrom value).any fun value => decide (test value ≤ limit)) = true) :
    ∃ word, u64TryFrom value = some word ∧ word.toNat = value ∧ (test word).toNat ≤ limit.toNat := by
  unfold u64TryFrom at h ⊢
  split at h
  next hlt =>
    rw [if_pos hlt]
    refine ⟨_, rfl, ?_, UInt64.le_iff_toNat_le.mp (of_decide_eq_true h)⟩
    rw [UInt64.toNat_ofNat', Nat.mod_eq_of_lt hlt]
  next => simp at h

theorem toNat_u32SaturatingAdd_one {a limit : UInt32} (h : a < limit) :
    (u32SaturatingAdd a 1).toNat = a.toNat + 1 := by
  have hlt := UInt32.lt_iff_toNat_lt.mp h
  have hmax := limit.toNat_lt
  have hone : (1 : UInt32).toNat = 1 := rfl
  rw [u32SaturatingAdd, UInt32.toNat_ofNat', hone, Nat.min_eq_left (by omega),
    Nat.mod_eq_of_lt (by omega)]

/-- An accepted datagram counts in the window of the budget, or opens the next one. -/
theorem Accounts.commit (h : Accounts config budget older current) {now size : Nat}
    (haccept : budget.canAccept now size config.packetsPerLeasePerSecond config.bytesPerLeasePerSecond =
      true)
    (hlatest : ∀ taken ∈ older ++ current, taken.instant ≤ now) :
    ∃ older' current', older' ++ current' =
        older ++ current ++ [⟨now, size, some (budget.commit now size).windowStarted⟩] ∧
      Accounts config (budget.commit now size) older' current' := by
  obtain ⟨hpackets, hbytes, hcounted, hsummed⟩ := h
  have hpositive := UInt32.le_iff_toNat_le.mp config.packetsPerLeasePerSecond_bounds.1
  have hone : (1 : UInt32).toNat = 1 := rfl
  have hmost := UInt64.le_iff_toNat_le.mp config.bytesPerLeasePerSecond_bounds.2
  have hgib : (10 * 1024 * 1024 * 1024 : UInt64).toNat = 10737418240 := rfl
  unfold TrafficBudget.canAccept at haccept
  unfold TrafficBudget.commit
  by_cases hover : saturatingDurationSince now budget.windowStarted ≥ trafficWindow
  · rw [if_pos hover] at haccept
    obtain ⟨word, hword, hsize, hlimit⟩ := u64TryFrom_any id haccept
    have hlength : 0 < trafficWindow := by decide
    have hnow : budget.windowStarted + trafficWindow ≤ now := by
      unfold saturatingDurationSince at hover
      omega
    rw [if_pos hover, hword]
    refine ⟨older ++ current, [⟨now, size, some now⟩], rfl, ?_, ?_, ?_, ?_⟩
    · exact hpackets.reset ⟨now, size, some now⟩ hlength (by omega) hnow rfl hlatest
    · refine hbytes.reset ⟨now, size, some now⟩ hlength ?_ hnow rfl hlatest
      show size ≤ _
      rw [← hsize]
      exact hlimit
    · show 1 ≤ (u32SaturatingAdd 0 1).toNat
      decide
    · show load Admission.size [⟨now, size, some now⟩] ≤ (u64SaturatingAdd 0 word).toNat
      have hword := word.toNat_lt
      rw [load_singleton, toNat_u64SaturatingAdd, hsize, UInt64.toNat_zero]
      dsimp only
      omega
  · rw [if_neg hover, Bool.and_eq_true, decide_eq_true_iff] at haccept
    obtain ⟨hroom, haccept⟩ := haccept
    obtain ⟨word, hword, hsize, hlimit⟩ := u64TryFrom_any (u64SaturatingAdd budget.bytes) haccept
    rw [toNat_u64SaturatingAdd, hsize] at hlimit
    rw [if_neg hover, hword]
    have hcount := toNat_u32SaturatingAdd_one hroom
    have hroom := UInt32.lt_iff_toNat_lt.mp hroom
    refine ⟨older, current ++ [⟨now, size, some budget.windowStarted⟩], by simp, ?_, ?_, ?_, ?_⟩
    · refine hpackets.stay ⟨now, size, some budget.windowStarted⟩ ?_ rfl
        fun earlier hearlier => hlatest _ (List.mem_append_right _ hearlier)
      rw [load_one]
      omega
    · refine hbytes.stay ⟨now, size, some budget.windowStarted⟩ ?_ rfl
        fun earlier hearlier => hlatest _ (List.mem_append_right _ hearlier)
      dsimp only
      omega
    · show (current ++ [_]).length ≤ (u32SaturatingAdd budget.packets 1).toNat
      rw [List.length_append, List.length_singleton, hcount]
      omega
    · show load Admission.size (current ++ [_]) ≤ (u64SaturatingAdd budget.bytes word).toNat
      rw [load_append, load_singleton, toNat_u64SaturatingAdd, hsize]
      dsimp only
      omega

end Budgets

/-- The budget of a lease is gone with the lease, or as it was. -/
def Retains (s s' : RelayServer) (leaseId : Block 16) : Prop :=
  trafficOf s' leaseId = none ∨ trafficOf s' leaseId = trafficOf s leaseId

section Calls

variable {s t : RelayServer} {leaseId other : Block 16} {lease : Lease}

theorem Retains.trans {u : RelayServer} (h : Retains s t leaseId) (h' : Retains t u leaseId) :
    Retains s u leaseId := by
  rcases h' with hnone | hsame
  · exact Or.inl hnone
  · unfold Retains
    rw [hsame]
    exact h

theorem trafficOf_insert (ht : t.leases = s.leases.insert other lease) :
    trafficOf t leaseId = if leaseId = other then some lease.traffic else trafficOf s leaseId := by
  unfold trafficOf
  rw [ht, lookup_insert_eq]
  split
  next => rfl
  next => rfl

theorem trafficOf_rewrite {before : Lease} (ht : t.leases = s.leases.insert other lease)
    (hlookup : s.leases.lookup other = some before) (hsame : lease.traffic = before.traffic) :
    trafficOf t leaseId = trafficOf s leaseId := by
  rw [trafficOf_insert ht]
  split
  next heq =>
    unfold trafficOf
    rw [heq, hlookup, hsame]
    rfl
  next => rfl

theorem trafficOf_enqueue (hlookup : s.leases.lookup other = some lease) (datagram : Bytes) (now : Nat) :
    trafficOf (s.enqueue other lease datagram now) leaseId = trafficOf s leaseId := by
  unfold RelayServer.enqueue
  dsimp only
  split
  next => exact trafficOf_rewrite rfl hlookup rfl
  next => exact trafficOf_rewrite rfl hlookup rfl

theorem flushOne_traffic {send : SendOutcome} {forward : Option Forward}
    (h : s.flushOne send = some (forward, t)) : trafficOf t leaseId = trafficOf s leaseId := by
  obtain ⟨head, rest, _, hcase⟩ := flushOne_cases h
  rcases hcase with ⟨_, _, hs⟩ | ⟨lease, _, hl, _, hs⟩ | ⟨lease, datagram, queue, hl, hqueue, _, hs⟩
  · rw [hs]
    rfl
  · rw [hs]
    exact trafficOf_rewrite rfl hl rfl
  · have hpop : (RelayServer.popQueue lease).traffic = lease.traffic := by
      simp [RelayServer.popQueue, hqueue]
    rw [hs]
    unfold RelayServer.reschedule
    split
    next => exact trafficOf_rewrite rfl hl hpop
    next => exact trafficOf_rewrite rfl hl hpop

theorem flushLoop_traffic (remaining : Nat) (send : Nat → SendOutcome) (s : RelayServer) :
    trafficOf (RelayServer.flushLoop remaining send s).2 leaseId = trafficOf s leaseId := by
  induction remaining generalizing s send with
  | zero => rfl
  | succ remaining ih =>
    unfold RelayServer.flushLoop
    split
    next => rfl
    next hone => exact (ih _ _).trans (flushOne_traffic hone)

theorem removeAll_retains (s : RelayServer) (expired : List (Block 16 × NodeKey)) :
    Retains s (expired.foldl (fun s entry => s.removeExpired entry.1 entry.2) s) leaseId := by
  induction expired generalizing s with
  | nil => exact Or.inr rfl
  | cons entry expired ih =>
    have hfirst : Retains s (s.removeExpired entry.1 entry.2) leaseId := by
      unfold Retains trafficOf
      simp only [RelayServer.removeExpired, lookup_erase_eq]
      split
      next => exact Or.inl rfl
      next => exact Or.inr rfl
    exact hfirst.trans (ih _)

theorem insertLease_retains (hother : leaseId ≠ other) :
    Retains s (s.insertLease other lease) leaseId := by
  unfold Retains trafficOf
  rw [lookup_insertLease, if_neg hother]
  split
  next => exact Or.inl rfl
  next => exact Or.inr rfl

/-- The server before a call took a datagram of the lease, and after it. -/
def Spends (s t : RelayServer) (leaseId : Block 16) (now size : Nat) : Prop :=
  ∃ budget, trafficOf s leaseId = some budget ∧
    budget.canAccept now size s.config.packetsPerLeasePerSecond s.config.bytesPerLeasePerSecond = true ∧
    trafficOf t leaseId = some (budget.commit now size)

theorem handleData_spends {clock : Clock} {datagram : Bytes} {source : SocketAddr}
    {destination : Block 16} (h : s.handleData clock datagram source = (.ok destination, t)) :
    ∃ frame, parseRelayFrame datagram = some frame ∧
      Spends s t frame.leaseId clock.instant datagram.length ∧
      ∀ leaseId, leaseId ≠ frame.leaseId → trafficOf t leaseId = trafficOf s leaseId := by
  unfold RelayServer.handleData at h
  split at h
  next => simp at h
  next frame hframe =>
    refine ⟨frame, hframe, ?_⟩
    split at h
    next => simp at h
    next =>
      split at h
      next => simp at h
      next lease hlease =>
        split at h
        next => simp at h
        next =>
          split at h
          next => simp at h
          next =>
            split at h
            next => simp at h
            next haccept =>
              split at h
              next => simp at h
              next =>
                split at h
                next => simp at h
                next =>
                  split at h
                  next => simp at h
                  next =>
                    split at h
                    next => simp at h
                    next replay _ =>
                      dsimp only at h
                      split at h
                      next => simp at h
                      next after hafter =>
                        cases h
                        refine ⟨⟨lease.traffic, ?_, by simpa using haccept, ?_⟩, fun leaseId hne => ?_⟩
                        · unfold trafficOf
                          rw [hlease]
                          rfl
                        · rw [trafficOf_enqueue hafter, trafficOf_insert rfl, if_pos rfl]
                        · rw [trafficOf_enqueue hafter, trafficOf_insert rfl, if_neg hne]

theorem handleKeepalive_spends {c : Crypto} {clock : Clock} {datagram : Bytes} {source : SocketAddr}
    {response : Block 152} (h : s.handleKeepalive c clock datagram source = (.ok response, t)) :
    ∃ frame, parseRelayKeepalive datagram = some frame ∧
      Spends s t frame.leaseId clock.instant datagram.length ∧
      ∀ leaseId, leaseId ≠ frame.leaseId → trafficOf t leaseId = trafficOf s leaseId := by
  unfold RelayServer.handleKeepalive at h
  split at h
  next => simp at h
  next frame hframe =>
    refine ⟨frame, hframe, ?_⟩
    split at h
    next => simp at h
    next =>
      split at h
      next => simp at h
      next lease hlease =>
        split at h
        next => simp at h
        next =>
          split at h
          next => simp at h
          next =>
            split at h
            next => simp at h
            next haccept =>
              split at h
              next => simp at h
              next =>
                cases h
                refine ⟨⟨lease.traffic, ?_, by simpa using haccept, ?_⟩, fun leaseId hne => ?_⟩
                · unfold trafficOf
                  rw [hlease]
                  rfl
                · rw [trafficOf_insert rfl, if_pos rfl]
                · rw [trafficOf_insert rfl, if_neg hne]

theorem handleKeepalive_error {c : Crypto} {clock : Clock} {datagram : Bytes} {source : SocketAddr}
    {drop : RelayDrop} (h : s.handleKeepalive c clock datagram source = (.error drop, t)) :
    trafficOf t leaseId = trafficOf s leaseId := by
  unfold RelayServer.handleKeepalive at h
  split at h
  next =>
    cases h
    rfl
  next =>
    split at h
    next =>
      cases h
      rfl
    next =>
      split at h
      next =>
        cases h
        rfl
      next lease hlease =>
        split at h
        next =>
          cases h
          rfl
        next =>
          split at h
          next =>
            cases h
            rfl
          next =>
            split at h
            next =>
              cases h
              rfl
            next =>
              split at h
              next =>
                cases h
                exact trafficOf_rewrite rfl hlease rfl
              next => simp at h

end Calls

/-- A call takes a datagram of the lease with its budget, or leaves the budget or drops the lease. -/
theorem apply_traffic (c : Crypto) (s : RelayServer) (leaseId : Block 16) (op : RelayOp)
    (hkept : grantedLease (op, (s.apply c op).1) ≠ some leaseId) :
    (admitted leaseId (op, (s.apply c op).1) = none ∧ Retains s (s.apply c op).2 leaseId) ∨
      ∃ clock size, clockOf op = some clock ∧
        admitted leaseId (op, (s.apply c op).1) = some (clock.instant, size) ∧
        Spends s (s.apply c op).2 leaseId clock.instant size := by
  cases op with
  | registration clock draws datagram source =>
    obtain ⟨outcome, t, hout⟩ : ∃ outcome t, s.handleRegistration c clock draws datagram source =
      (outcome, t) := ⟨_, _, rfl⟩
    simp only [RelayServer.apply, hout, Prod.map, id] at hkept ⊢
    refine Or.inl ⟨rfl, ?_⟩
    obtain ⟨budgets, order, hcase⟩ := handleRegistration_cases hout
    rcases hcase with ⟨_, hs⟩ | ⟨_, _, _, _, _, _, _, hs⟩ | ⟨granted, response, hr, hg⟩
    · rw [hs]
      exact Or.inr rfl
    · rw [hs]
      exact Or.inr rfl
    · obtain ⟨verified, lease, _, _, _, _, _, _, _, hs⟩ := hg
      rw [hr] at hkept
      rw [hs]
      exact insertLease_retains (s := s.withSources budgets order)
        fun heq => hkept (congrArg some heq.symm)
  | data clock datagram source =>
    obtain ⟨outcome, t, hout⟩ : ∃ outcome t, s.handleData clock datagram source = (outcome, t) :=
      ⟨_, _, rfl⟩
    simp only [RelayServer.apply, hout, Prod.map, id]
    rcases handleData_cases hout with ⟨drop, hr, hs⟩ | ⟨destination, hr, _⟩
    · rw [hr, hs]
      exact Or.inl ⟨rfl, Or.inr rfl⟩
    · rw [hr] at hout ⊢
      obtain ⟨frame, hframe, hspends, hothers⟩ := handleData_spends hout
      by_cases hid : frame.leaseId = leaseId
      · rw [hid] at hspends
        exact Or.inr ⟨clock, datagram.length, rfl, by simp [admitted, hframe, hid], hspends⟩
      · exact Or.inl ⟨by simp [admitted, hframe, hid], Or.inr (hothers leaseId (Ne.symm hid))⟩
  | keepalive clock datagram source =>
    obtain ⟨outcome, t, hout⟩ : ∃ outcome t, s.handleKeepalive c clock datagram source =
      (outcome, t) := ⟨_, _, rfl⟩
    simp only [RelayServer.apply, hout, Prod.map, id]
    cases outcome with
    | error drop => exact Or.inl ⟨rfl, Or.inr (handleKeepalive_error hout)⟩
    | ok response =>
      obtain ⟨frame, hframe, hspends, hothers⟩ := handleKeepalive_spends hout
      by_cases hid : frame.leaseId = leaseId
      · rw [hid] at hspends
        exact Or.inr ⟨clock, datagram.length, rfl, by simp [admitted, hframe, hid], hspends⟩
      · exact Or.inl ⟨by simp [admitted, hframe, hid], Or.inr (hothers leaseId (Ne.symm hid))⟩
  | flushQueues send => exact Or.inl ⟨rfl, Or.inr (flushLoop_traffic maxFlushPerTick send s)⟩
  | cleanup clock => exact Or.inl ⟨rfl, removeAll_retains s _⟩

/-- What was accepted so far keeps the limits, and the budget of the lease accounts for it. -/
structure Limited (s : RelayServer) (leaseId : Block 16) (taken : List Admission) : Prop where
  tracked : ∀ budget, trafficOf s leaseId = some budget →
    ∃ older current, older ++ current = taken ∧ Accounts s.config budget older current
  packets : ∀ start, (within Admission.instant trafficWindow start taken).length ≤
    2 * s.config.packetsPerLeasePerSecond.toNat
  bytes : ∀ start, load Admission.size (within Admission.instant trafficWindow start taken) ≤
    2 * s.config.bytesPerLeasePerSecond.toNat
  windows : ∀ window, (taken.filter fun event => event.window = some window).length ≤
      s.config.packetsPerLeasePerSecond.toNat ∧
    load Admission.size (taken.filter fun event => event.window = some window) ≤
      s.config.bytesPerLeasePerSecond.toNat

theorem limited_start (s : RelayServer) (leaseId : Block 16) : Limited s leaseId [] where
  tracked budget _ := ⟨[], [], rfl, Accounts.new _ budget⟩
  packets _ := Nat.zero_le _
  bytes _ := Nat.zero_le _
  windows _ := ⟨Nat.zero_le _, Nat.zero_le _⟩

theorem Limited.of_accounts {s : RelayServer} {leaseId : Block 16} {budget : TrafficBudget}
    {older current : List Admission} (htraffic : trafficOf s leaseId = some budget)
    (h : Accounts s.config budget older current) : Limited s leaseId (older ++ current) := by
  have hwindow : ∀ window, ((older ++ current).filter fun event => event.window = some window).Sublist
      ((older ++ current).filter fun event => event.window.getD 0 = window) := by
    intro window
    refine List.monotone_filter_right _ fun event hevent => ?_
    rw [decide_eq_true_iff] at hevent ⊢
    rw [hevent]
    rfl
  refine ⟨fun budget' hbudget => ?_, fun start => ?_, h.bytes.interval_le, fun window => ⟨?_, ?_⟩⟩
  · rw [htraffic] at hbudget
    cases Option.some.inj hbudget
    exact ⟨older, current, rfl, h⟩
  · have hinterval := h.packets.interval_le start
    rw [load_one] at hinterval
    exact hinterval
  · have hload := h.packets.load_window window
    rw [load_one] at hload
    exact (hwindow window).length_le.trans hload
  · exact (load_sublist _ (hwindow window)).trans (h.bytes.load_window window)

theorem Limited.apply {c : Crypto} {s : RelayServer} {leaseId : Block 16} {taken : List Admission}
    (h : Limited s leaseId taken) (op : RelayOp)
    (hkept : grantedLease (op, (s.apply c op).1) ≠ some leaseId)
    (hlatest : ∀ event ∈ taken, ∀ clock, clockOf op = some clock → event.instant ≤ clock.instant) :
    Limited (s.apply c op).2 leaseId
      (taken ++ (admission leaseId (op, (s.apply c op).1) (s.apply c op).2).toList) := by
  have hconfig := apply_config c s op
  rcases apply_traffic c s leaseId op hkept with
    ⟨hnone, hretains⟩ | ⟨clock, size, hclock, hadmitted, budget, hbefore, haccept, hafter⟩
  · rw [admission, hnone, Option.map_none, Option.toList_none, List.append_nil]
    refine ⟨fun budget hbudget => ?_, ?_, ?_, ?_⟩
    · rcases hretains with hgone | hsame
      · rw [hgone] at hbudget
        exact nomatch hbudget
      · rw [hsame] at hbudget
        rw [hconfig]
        exact h.tracked budget hbudget
    · rw [hconfig]
      exact h.packets
    · rw [hconfig]
      exact h.bytes
    · rw [hconfig]
      exact h.windows
  · obtain ⟨older, current, rfl, haccounts⟩ := h.tracked budget hbefore
    obtain ⟨older', current', heq, hcommitted⟩ := haccounts.commit haccept
      fun event hevent => hlatest event hevent clock hclock
    rw [admission, hadmitted, hafter, Option.map_some, Option.map_some, Option.toList_some, ← heq]
    refine Limited.of_accounts hafter ?_
    rw [hconfig]
    exact hcommitted

theorem admitted_instant {leaseId : Block 16} {op : RelayOp} {output : RelayOutput} {taken : Nat × Nat}
    (h : admitted leaseId (op, output) = some taken) :
    ∃ clock, clockOf op = some clock ∧ taken.1 = clock.instant := by
  unfold admitted at h
  split at h
  next clock _ _ _ heq =>
    cases heq
    split at h
    next =>
      cases Option.some.inj h
      exact ⟨clock, rfl, rfl⟩
    next => simp at h
  next clock _ _ _ heq =>
    cases heq
    split at h
    next =>
      cases Option.some.inj h
      exact ⟨clock, rfl, rfl⟩
    next => simp at h
  next => simp at h

theorem limited_run (c : Crypto) (leaseId : Block 16) (ops : List RelayOp) {s : RelayServer}
    {taken : List Admission} (h : Limited s leaseId taken) (hkept : leaseId ∉ grantedLeases c s ops)
    (hclocks : (ops.filterMap clockOf).Pairwise fun earlier later => earlier.instant ≤ later.instant)
    (hlatest : ∀ event ∈ taken, ∀ clock ∈ ops.filterMap clockOf, event.instant ≤ clock.instant) :
    ∃ after, after.config = s.config ∧ Limited after leaseId (taken ++ admissions c leaseId s ops) := by
  induction ops generalizing s taken with
  | nil => exact ⟨s, rfl, by simpa [admissions] using h⟩
  | cons op ops ih =>
    have hgranted : grantedLeases c s (op :: ops) =
        (grantedLease (op, (s.apply c op).1)).toList ++ grantedLeases c (s.apply c op).2 ops := by
      unfold grantedLeases
      rw [trace, List.filterMap_cons]
      cases grantedLease (op, (s.apply c op).1) <;> rfl
    rw [hgranted, List.mem_append, not_or] at hkept
    have hsplit : (op :: ops).filterMap clockOf = (clockOf op).toList ++ ops.filterMap clockOf := by
      rw [List.filterMap_cons]
      cases clockOf op <;> rfl
    rw [hsplit] at hclocks hlatest
    obtain ⟨_, hrest, hlater⟩ := List.pairwise_append.mp hclocks
    have hother : grantedLease (op, (s.apply c op).1) ≠ some leaseId := by
      intro heq
      rw [heq] at hkept
      exact hkept.1 (List.mem_singleton_self _)
    have hfirst := h.apply (c := c) op hother fun event hevent clock hclock => by
      rw [hclock] at hlatest
      exact hlatest event hevent clock (List.mem_append_left _ (List.mem_singleton_self _))
    obtain ⟨after, hconfig, hafter⟩ := ih hfirst hkept.2 hrest (by
      intro event hevent clock hclock
      rcases List.mem_append.mp hevent with hold | hnew
      · exact hlatest event hold clock (List.mem_append_right _ hclock)
      · obtain ⟨taken, hadmitted, rfl⟩ := Option.map_eq_some_iff.mp (Option.mem_toList.mp hnew)
        obtain ⟨now, hnow, hinstant⟩ := admitted_instant hadmitted
        rw [hinstant]
        exact hlater now (by rw [hnow]; exact List.mem_singleton_self _) clock hclock)
    refine ⟨after, hconfig.trans (apply_config c s op), ?_⟩
    rw [admissions, ← List.append_assoc]
    exact hafter

/-- From any state, and for every lease that is not granted anew: in every half-open second at most
twice the limits, and in every accounting window at most the limits. -/
theorem relay_rate_limits (c : Crypto) (s : RelayServer) (leaseId : Block 16) (ops : List RelayOp)
    (hkept : leaseId ∉ grantedLeases c s ops)
    (hclocks : (ops.filterMap clockOf).Pairwise fun earlier later => earlier.instant ≤ later.instant) :
    (∀ start, (within Admission.instant trafficWindow start (admissions c leaseId s ops)).length ≤
        2 * s.config.packetsPerLeasePerSecond.toNat ∧
      load Admission.size (within Admission.instant trafficWindow start (admissions c leaseId s ops)) ≤
        2 * s.config.bytesPerLeasePerSecond.toNat) ∧
    ∀ window, ((admissions c leaseId s ops).filter fun taken => taken.window = some window).length ≤
        s.config.packetsPerLeasePerSecond.toNat ∧
      load Admission.size ((admissions c leaseId s ops).filter fun taken => taken.window = some window) ≤
        s.config.bytesPerLeasePerSecond.toNat := by
  obtain ⟨after, hconfig, hlimited⟩ := limited_run c leaseId ops (limited_start s leaseId) hkept hclocks
    fun event hevent => nomatch hevent
  obtain ⟨_, hpackets, hbytes, hwindows⟩ := hlimited
  rw [hconfig] at hpackets hbytes hwindows
  exact ⟨fun start => ⟨hpackets start, hbytes start⟩, hwindows⟩

/-- Two keepalives of a lease within one second -/
def sampleKeepalives : List RelayOp :=
  [1, 2].map fun sequence => .keepalive ⟨10 ^ 8, 1700000100⟩
    (encodeRelayKeepalive (fill 16 21) (fill 16 41) (nodeId .transparent sampleIdentityKey.seed)
      (fill 16 1) sequence).val sampleEndpoint

def sampleLeased : RelayServer :=
  (RelayServer.apply .transparent (RelayServer.new sampleRelayConfig) sampleGrant).2

theorem relay_rate_limits_keepalives :
    (admissions .transparent (fill 16 1) sampleLeased sampleKeepalives).length = 2 ∧
      (within Admission.instant trafficWindow 0
        (admissions .transparent (fill 16 1) sampleLeased sampleKeepalives)).length ≤
          2 * sampleLeased.config.packetsPerLeasePerSecond.toNat :=
  ⟨by decide +kernel, ((relay_rate_limits .transparent sampleLeased (fill 16 1) sampleKeepalives
    (by decide +kernel) (by decide +kernel)).1 0).1⟩

end XsNexus

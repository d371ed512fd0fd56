import XsNexus.AddressText
import XsNexus.AclMeaning
import XsNexus.PolicyManagement
import XsNexus.Rearrangements

namespace XsNexus

open ByteCodec Checks FiniteMap Rearrangements

section Orders

instance {α : Type*} (key : α → String) : Std.Total fun left right : α => ¬strLt (key right) (key left) where
  total left right := List.le_total (utf8 (key left)) (utf8 (key right))

instance {α : Type*} (key : α → String) : IsTrans α fun left right => ¬strLt (key right) (key left) where
  trans _ _ _ hab hbc := List.le_trans hab hbc

theorem sortStrings_perm {values values' : List String} (h : values.Perm values') :
    sortStrings values = sortStrings values' :=
  insertionSort_eq_of_perm h fun _ _ _ _ hab hba => eq_of_not_strLt hba hab

theorem selectorSortKey_injective {left right : AclSelector}
    (h : selectorSortKey left = selectorSortKey right) : left = right := by
  have hany : utf8 "any" = [97, 110, 121] := by decide
  have hnode : utf8 "node:" = [110, 111, 100, 101, 58] := by decide
  have hgroup : utf8 "group:" = [103, 114, 111, 117, 112, 58] := by decide
  have htag : utf8 "tag:" = [116, 97, 103, 58] := by decide
  have hsubnet : utf8 "subnet:" = [115, 117, 98, 110, 101, 116, 58] := by decide
  have hbytes := congrArg utf8 h
  cases left <;> cases right <;>
    simp [selectorSortKey, utf8_append, hany, hnode, hgroup, htag, hsubnet] at hbytes ⊢
  all_goals exact utf8_injective hbytes

theorem sortSelectors_perm {selectors selectors' : List AclSelector} (h : selectors.Perm selectors') :
    sortSelectors selectors = sortSelectors selectors' :=
  insertionSort_eq_of_perm h fun _ _ _ _ hab hba => selectorSortKey_injective (eq_of_not_strLt hba hab)

/-- Both ends of a range in one number -/
def PortRange.key (range : PortRange) : Nat := range.start.toNat * 2 ^ 16 + range.end.toNat

theorem portRangeLe_iff {left right : PortRange} : portRangeLe left right ↔ left.key ≤ right.key := by
  have hleft := left.end.toNat_lt
  have hright := right.end.toNat_lt
  unfold portRangeLe PortRange.key
  rw [UInt16.lt_iff_toNat_lt, UInt16.le_iff_toNat_le, ← UInt16.toNat_inj]
  omega

instance : Std.Total portRangeLe where
  total left right := by
    rw [portRangeLe_iff, portRangeLe_iff]
    exact Nat.le_total _ _

instance : IsTrans PortRange portRangeLe where
  trans _ _ _ hab hbc := portRangeLe_iff.mpr ((portRangeLe_iff.mp hab).trans (portRangeLe_iff.mp hbc))

theorem portRangeLe_antisymm {left right : PortRange} (h : portRangeLe left right) (h' : portRangeLe right left) :
    left = right := by
  have hkey := Nat.le_antisymm (portRangeLe_iff.mp h) (portRangeLe_iff.mp h')
  have hleft := left.end.toNat_lt
  have hright := right.end.toNat_lt
  unfold PortRange.key at hkey
  have hstart : left.start = right.start := UInt16.toNat_inj.mp (by omega)
  have hend : left.end = right.end := UInt16.toNat_inj.mp (by omega)
  cases left
  cases right
  simp_all

theorem sortPorts_perm {ranges ranges' : List PortRange} (h : ranges.Perm ranges') :
    ranges.insertionSort portRangeLe = ranges'.insertionSort portRangeLe :=
  insertionSort_eq_of_perm h fun _ _ _ _ => portRangeLe_antisymm

theorem aclRuleLe_eq_ranked : aclRuleLe =
    Ranked (fun rule => -(rule.priority.toNat : ℤ)) fun left right => ¬strLt right.id left.id := by
  funext left right
  refine propext ?_
  unfold aclRuleLe Ranked
  beta_reduce
  rw [UInt32.lt_iff_toNat_lt, ← UInt32.toNat_inj]
  refine or_congr ?_ (and_congr_left fun _ => ?_)
  · omega
  · omega

instance : Std.Total aclRuleLe := by
  rw [aclRuleLe_eq_ranked]
  infer_instance

instance : IsTrans AclRule aclRuleLe := by
  rw [aclRuleLe_eq_ranked]
  infer_instance

theorem aclRuleLe_of_before {left right : AclRule} (h : RuleBefore left right) :
    aclRuleLe left right ∧ ¬aclRuleLe right left := by
  unfold RuleBefore at h
  unfold aclRuleLe
  rw [UInt32.lt_iff_toNat_lt, UInt32.lt_iff_toNat_lt, ← UInt32.toNat_inj, ← UInt32.toNat_inj]
  rw [UInt32.lt_iff_toNat_lt, ← UInt32.toNat_inj] at h
  rcases h with h | ⟨hpriority, hid⟩
  · exact ⟨Or.inl h, by omega⟩
  · refine ⟨Or.inr ⟨hpriority, fun hback => strLt_irrefl _ (strLt_trans hid hback)⟩, ?_⟩
    rintro (hlt | ⟨_, hnot⟩)
    · omega
    · exact hnot hid

theorem subnetRouteLe_eq_ranked : subnetRouteLe =
    Ranked (fun parsed => (parsed.1.network.bits.toNat : ℤ)) (Ranked (fun parsed => (parsed.1.prefixLen : ℤ))
      (Ranked (fun parsed => -(parsed.2.priority.toNat : ℤ))
        fun left right => ¬strLt right.2.routeId left.2.routeId)) := by
  funext left right
  refine propext ?_
  have hnetwork : left.1.network = right.1.network ↔
      (left.1.network.bits.toNat : ℤ) = right.1.network.bits.toNat := by
    constructor
    · intro h
      rw [h]
    · intro h
      have hbits : left.1.network.bits = right.1.network.bits := BitVec.eq_of_toNat_eq (by omega)
      cases hl : left.1.network
      cases hr : right.1.network
      rw [hl, hr] at hbits
      simp_all
  unfold subnetRouteLe Ranked
  beta_reduce
  rw [hnetwork, BitVec.lt_def, UInt32.lt_iff_toNat_lt, ← UInt32.toNat_inj]
  refine or_congr (by omega) (and_congr_right fun _ => or_congr (by omega) (and_congr (by omega) ?_))
  exact or_congr (by omega) (and_congr_left fun _ => by omega)

instance : Std.Total subnetRouteLe := by
  rw [subnetRouteLe_eq_ranked]
  infer_instance

instance : IsTrans (Ipv4Net × ConfigurationSubnetRoute) subnetRouteLe := by
  rw [subnetRouteLe_eq_ranked]
  infer_instance

theorem routeId_of_same {left right : Ipv4Net × ConfigurationSubnetRoute} (h : subnetRouteLe left right)
    (h' : subnetRouteLe right left) : left.2.routeId = right.2.routeId := by
  rw [subnetRouteLe_eq_ranked] at h h'
  obtain ⟨_, h, h'⟩ := h.same h'
  obtain ⟨_, h, h'⟩ := h.same h'
  obtain ⟨_, h, h'⟩ := h.same h'
  exact eq_of_not_strLt h' h

end Orders

section Groups

variable (p : Platform)

/-- Groups with one name and the same members -/
structure SameGroup (left right : AclGroupRequest) : Prop where
  name : left.name = right.name
  nodeIdsBase64 : left.nodeIdsBase64.Perm right.nodeIdsBase64

theorem SameGroup.symm {left right : AclGroupRequest} (h : SameGroup left right) : SameGroup right left :=
  ⟨h.name.symm, h.nodeIdsBase64.symm⟩

theorem sorted_sortStrings (values : List String) :
    (sortStrings values).Pairwise fun left right => ¬strLt right left :=
  List.pairwise_insertionSort _ values

/-- Sorted texts stand in strict order when no text is equal to the one behind it. -/
theorem strict_of_repeatsNeighbour {values : List String}
    (hsorted : values.Pairwise fun left right => ¬strLt right left) (h : repeatsNeighbour values = false) :
    values.Pairwise strLt := by
  induction values with
  | nil => exact List.Pairwise.nil
  | cons first rest ih =>
    obtain ⟨hfirst, hrest⟩ := List.pairwise_cons.mp hsorted
    cases rest with
    | nil => exact List.pairwise_singleton _ _
    | cons second rest =>
      have hparts : first ≠ second ∧ repeatsNeighbour (second :: rest) = false := by
        simpa [repeatsNeighbour] using h
      have hstrict := ih hrest hparts.2
      have hlt : strLt first second := by
        by_contra hnot
        exact hparts.1 (eq_of_not_strLt hnot (hfirst second List.mem_cons_self))
      refine List.pairwise_cons.mpr ⟨fun value hvalue => ?_, hstrict⟩
      rcases List.mem_cons.mp hvalue with rfl | hvalue
      · exact hlt
      · exact strLt_trans hlt ((List.pairwise_cons.mp hstrict).1 value hvalue)

theorem nodup_of_strict {values : List String} (h : values.Pairwise strLt) : values.Nodup := by
  refine h.imp fun {left right} hlt heq => ?_
  rw [heq] at hlt
  exact strLt_irrefl _ hlt

theorem canonicalGroup_fails (group : AclGroupRequest) : FailsWith .validation (canonicalGroup p group) := by
  refine FailsWith.error.ite ((FailsWith.mapM (fun _ => FailsWith.okOr _) _).bind fun _ => ?_)
  exact FailsWith.error.ite (FailsWith.ok _)

variable {p}

theorem canonicalGroup_of_same {left right canonical : AclGroupRequest} (h : SameGroup left right)
    (hleft : canonicalGroup p left = .ok canonical) : canonicalGroup p right = .ok canonical := by
  unfold canonicalGroup at hleft ⊢
  obtain ⟨hvalid, hleft⟩ := guard_ok.mp hleft
  obtain ⟨ids, hids, hleft⟩ := bind_ok.mp hleft
  obtain ⟨ids', hids', _⟩ := mapM_perm h.nodeIdsBase64 hids
  have hnil : left.nodeIdsBase64 = [] ↔ right.nodeIdsBase64 = [] := by
    rw [← List.length_eq_zero_iff, h.nodeIdsBase64.length_eq, List.length_eq_zero_iff]
  rw [h.name, hnil, h.nodeIdsBase64.length_eq] at hvalid
  rw [sortStrings_perm h.nodeIdsBase64, h.name] at hleft
  exact guard_ok.mpr ⟨hvalid, bind_ok.mpr ⟨ids', hids', hleft⟩⟩

theorem canonicalGroup_eq {left right : AclGroupRequest} (h : SameGroup left right) :
    canonicalGroup p left = canonicalGroup p right :=
  (canonicalGroup_fails p left).eq (canonicalGroup_fails p right) (fun _ => canonicalGroup_of_same h)
    fun _ => canonicalGroup_of_same h.symm

theorem canonicalGroups_fails (groups : List AclGroupRequest) :
    FailsWith .validation (canonicalGroups p groups) :=
  (FailsWith.mapM (canonicalGroup_fails p) groups).bind fun _ => FailsWith.error.ite (FailsWith.ok _)

theorem canonicalGroups_of_rearranged {first second canonical : List AclGroupRequest}
    (h : Rearranged SameGroup first second) (hfirst : canonicalGroups p first = .ok canonical) :
    canonicalGroups p second = .ok canonical := by
  obtain ⟨middle, hperm, hall⟩ := h
  obtain ⟨groups, hgroups, hfirst⟩ := bind_ok.mp hfirst
  obtain ⟨groups', hgroups', hsame⟩ := mapM_perm hperm hgroups
  have hcongr : middle.mapM (canonicalGroup p) = second.mapM (canonicalGroup p) :=
    mapM_congr_forall₂ (f := canonicalGroup p) (g := canonicalGroup p) (fun _ _ h => canonicalGroup_eq h) hall
  rw [hcongr] at hgroups'
  refine bind_ok.mpr ⟨groups', hgroups', ?_⟩
  obtain ⟨hrepeats, _⟩ := guard_ok.mp hfirst
  have hsorted : ((groups.insertionSort fun left right => ¬strLt right.name left.name).map
      AclGroupRequest.name).Pairwise fun left right => ¬strLt right left :=
    List.pairwise_map.mpr (List.pairwise_insertionSort _ groups)
  have hnodup : (groups.map AclGroupRequest.name).Nodup :=
    ((List.perm_insertionSort _ groups).map _).nodup_iff.mp
      (nodup_of_strict (strict_of_repeatsNeighbour hsorted (by simpa using hrepeats)))
  have hsort : (groups.insertionSort fun left right => ¬strLt right.name left.name) =
      groups'.insertionSort fun left right => ¬strLt right.name left.name :=
    insertionSort_eq_of_perm hsame fun left hleft right hright hab hba =>
      List.inj_on_of_nodup_map hnodup hleft hright (eq_of_not_strLt hba hab)
  dsimp only at hfirst ⊢
  rw [← hsort]
  exact hfirst

theorem canonicalGroups_eq {first second : List AclGroupRequest} (h : Rearranged SameGroup first second) :
    canonicalGroups p first = canonicalGroups p second :=
  (canonicalGroups_fails first).eq (canonicalGroups_fails second) (fun _ => canonicalGroups_of_rearranged h)
    fun _ => canonicalGroups_of_rearranged (h.symm fun _ _ => SameGroup.symm)

end Groups

section Rules

/-- Rules that differ in the order of their selectors and ranges -/
structure SameRule (left right : AclRule) : Prop where
  id : left.id = right.id
  priority : left.priority = right.priority
  action : left.action = right.action
  protocol : left.protocol = right.protocol
  sources : left.sources.Perm right.sources
  destinations : left.destinations.Perm right.destinations
  destinationPorts : left.destinationPorts.Perm right.destinationPorts

theorem SameRule.symm {left right : AclRule} (h : SameRule left right) : SameRule right left :=
  ⟨h.id.symm, h.priority.symm, h.action.symm, h.protocol.symm, h.sources.symm, h.destinations.symm,
    h.destinationPorts.symm⟩

/-- What `canonical_rules` does to one rule -/
def canonicalRule (rule : AclRule) : AclRule :=
  { rule with
    sources := sortSelectors rule.sources
    destinations := sortSelectors rule.destinations
    destinationPorts := rule.destinationPorts.insertionSort portRangeLe }

theorem canonicalRules_eq (rules : List AclRule) :
    canonicalRules rules = (rules.map canonicalRule).insertionSort aclRuleLe := rfl

theorem canonicalRule_of_same {left right : AclRule} (h : SameRule left right) :
    canonicalRule left = canonicalRule right := by
  unfold canonicalRule
  rw [sortSelectors_perm h.sources, sortSelectors_perm h.destinations, sortPorts_perm h.destinationPorts]
  obtain ⟨hid, hpriority, haction, hprotocol, _, _, _⟩ := h
  cases left
  cases right
  simp_all

theorem perm_canonicalRules {first second : List AclRule} (h : Rearranged SameRule first second) :
    (canonicalRules first).Perm (second.map canonicalRule) :=
  (List.perm_insertionSort aclRuleLe _).trans (h.map_perm fun _ _ => canonicalRule_of_same)

/-- A strict arrangement of the rules is the canonical one. -/
theorem canonicalRules_of_strict {first second : List AclRule} (h : Rearranged SameRule first second)
    (hstrict : (second.map canonicalRule).Pairwise RuleBefore) :
    canonicalRules first = second.map canonicalRule := by
  rw [canonicalRules_eq]
  exact insertionSort_eq_of_strict (fun _ _ => aclRuleLe_of_before)
    (h.map_perm fun _ _ => canonicalRule_of_same) hstrict

theorem canonicalRules_eq_of_strict {first second : List AclRule} (h : Rearranged SameRule first second)
    (hstrict : (canonicalRules first).Pairwise RuleBefore) : canonicalRules second = canonicalRules first := by
  have hperm : (second.map canonicalRule).Perm (canonicalRules first) := (perm_canonicalRules h).symm
  rw [canonicalRules_eq second]
  exact insertionSort_eq_of_strict (fun _ _ => aclRuleLe_of_before) hperm hstrict

end Rules

section Compile

variable {f : Formats} {routes : SubnetRoutePolicy}

theorem checkSelector_loop (f : Formats) (routes : SubnetRoutePolicy) :
    Loop (checkSelector f routes) (fun selector => (selectorKey f routes selector).isSome = true)
      (fun left right => selectorKey f routes left = selectorKey f routes right)
      (fun canonical selector => ∃ key ∈ canonical, selectorKey f routes selector = some key)
      (fun _ => 0) (fun _ => 0) where
  passes canonical selector := by
    unfold checkSelector
    cases hkey : selectorKey f routes selector with
    | none => simp
    | some key =>
      by_cases hmem : key ∈ canonical
      · simp [hmem]
      · simp [hmem]
  blocked_after h b := by
    unfold checkSelector at h
    split at h
    next => cases h
    next key hkey =>
      obtain ⟨_, h⟩ := guard_ok.mp h
      cases h
      rw [hkey]
      constructor
      · rintro ⟨other, hmem, hother⟩
        rcases List.mem_cons.mp hmem with rfl | hmem
        · exact Or.inl hother.symm
        · exact Or.inr ⟨other, hmem, hother⟩
      · rintro (hsame | ⟨other, hmem, hother⟩)
        · exact ⟨key, List.mem_cons_self, hsame.symm⟩
        · exact ⟨other, List.mem_cons_of_mem _ hmem, hother⟩
  room_after _ := rfl

theorem validateSelectors_perm {selectors selectors' : List AclSelector} (h : selectors.Perm selectors')
    (hvalid : validateSelectors f routes selectors = .ok ()) : validateSelectors f routes selectors' = .ok () := by
  unfold validateSelectors at hvalid ⊢
  obtain ⟨hany, hvalid⟩ := guard_ok.mp hvalid
  obtain ⟨keys, hkeys, _⟩ := bind_ok.mp hvalid
  rw [h.count_eq, h.length_eq] at hany
  obtain ⟨⟨hgood, hclash, _⟩, _⟩ := ((checkSelector_loop f routes).foldlM_ok selectors []).mp ⟨keys, hkeys⟩
  have hpair : selectors'.Pairwise fun left right => ¬selectorKey f routes left = selectorKey f routes right :=
    (h.pairwise_iff fun hne heq => hne heq.symm).mp hclash
  obtain ⟨keys', hkeys'⟩ := ((checkSelector_loop f routes).foldlM_ok selectors' []).mpr
    ⟨⟨fun selector hselector => hgood selector (h.mem_iff.mpr hselector), hpair, by simp⟩, by simp⟩
  exact guard_ok.mpr ⟨hany, bind_ok.mpr ⟨keys', hkeys', rfl⟩⟩

/-- Ranges that pass follow each other without sharing a port. -/
theorem ports_of_foldlM {ranges : List PortRange} {previous last : Option UInt16}
    (h : ranges.foldlM checkPortRange previous = .ok last) :
    ranges.Pairwise (fun left right => left.end < right.start) ∧
      ∀ range ∈ ranges, range.start ≤ range.end ∧ ∀ before ∈ previous, before < range.start := by
  induction ranges generalizing previous with
  | nil => exact ⟨List.Pairwise.nil, by simp⟩
  | cons range ranges ih =>
    rw [List.foldlM_cons] at h
    obtain ⟨next, hnext, hrest⟩ := bind_ok.mp h
    unfold checkPortRange at hnext
    obtain ⟨hvalid, hnext⟩ := guard_ok.mp hnext
    cases hnext
    obtain ⟨hpair, hbounds⟩ := ih hrest
    simp only [not_or, Option.any_eq_true, not_exists, not_and, decide_eq_true_eq] at hvalid
    obtain ⟨_, hends, hprevious⟩ := hvalid
    have hordered : range.start ≤ range.end := UInt16.not_lt.mp hends
    refine ⟨List.pairwise_cons.mpr ⟨fun after hafter => (hbounds after hafter).2 _ rfl, hpair⟩, ?_⟩
    refine List.forall_mem_cons.mpr ⟨⟨hordered, fun before hbefore => ?_⟩, fun after hafter => ?_⟩
    · exact UInt16.not_le.mp (hprevious before hbefore)
    · obtain ⟨hbound, hfree⟩ := hbounds after hafter
      refine ⟨hbound, fun before hbefore => ?_⟩
      have hfirst := UInt16.not_le.mp (hprevious before hbefore)
      have hnext := hfree range.end rfl
      rw [UInt16.lt_iff_toNat_lt] at hfirst hnext ⊢
      rw [UInt16.le_iff_toNat_le] at hordered
      omega

theorem sortPorts_of_foldlM {ranges : List PortRange} {last : Option UInt16}
    (h : ranges.foldlM checkPortRange none = .ok last) : ranges.insertionSort portRangeLe = ranges := by
  obtain ⟨hpair, hbounds⟩ := ports_of_foldlM h
  refine List.Pairwise.insertionSort_eq (hpair.imp_of_mem fun {left right} hleft _ hlt => ?_)
  have hordered := (hbounds left hleft).1
  refine Or.inl ?_
  rw [UInt16.lt_iff_toNat_lt] at hlt ⊢
  rw [UInt16.le_iff_toNat_le] at hordered
  omega

theorem validateRule_canonical {rule : AclRule} (h : validateRule f rule routes = .ok ()) :
    validateRule f (canonicalRule rule) routes = .ok () := by
  have hsources : (sortSelectors rule.sources).Perm rule.sources := List.perm_insertionSort _ _
  have hdestinations : (sortSelectors rule.destinations).Perm rule.destinations := List.perm_insertionSort _ _
  unfold validateRule at h ⊢
  obtain ⟨hfields, h⟩ := guard_ok.mp h
  obtain ⟨_, hvalid, h⟩ := bind_ok.mp h
  obtain ⟨_, hvalid', h⟩ := bind_ok.mp h
  obtain ⟨last, hports, _⟩ := bind_ok.mp h
  have hsame := sortPorts_of_foldlM hports
  refine guard_ok.mpr ⟨?_, bind_ok.mpr ⟨(), validateSelectors_perm hsources.symm hvalid, bind_ok.mpr
    ⟨(), validateSelectors_perm hdestinations.symm hvalid', bind_ok.mpr ⟨last, ?_, rfl⟩⟩⟩⟩
  · unfold canonicalRule
    dsimp only
    rw [hsame, hsources.length_eq, hdestinations.length_eq]
    rw [← List.length_eq_zero_iff, ← @List.length_eq_zero_iff _ rule.destinations] at hfields
    rw [← List.length_eq_zero_iff, ← @List.length_eq_zero_iff _ (sortSelectors rule.destinations),
      hsources.length_eq, hdestinations.length_eq]
    exact hfields
  · unfold canonicalRule
    dsimp only
    rw [hsame]
    exact hports

theorem checkRule_ok_iff {progress progress' : Option AclRule × List String} {rule : AclRule} :
    AclPolicy.checkRule f routes progress rule = .ok progress' ↔
      (∀ previous ∈ progress.1, RuleBefore previous rule) ∧ rule.id ∉ progress.2 ∧
        validateRule f rule routes = .ok () ∧ (some rule, rule.id :: progress.2) = progress' := by
  constructor
  · intro h
    have hbefore := (AclPolicy.checkRule_ok h).1
    obtain ⟨previous, ids⟩ := progress
    obtain ⟨_, h⟩ := guard_ok.mp h
    obtain ⟨hid, h⟩ := guard_ok.mp h
    obtain ⟨_, hvalid, h⟩ := bind_ok.mp h
    exact ⟨hbefore, hid, hvalid, Except.ok.inj h⟩
  · rintro ⟨hbefore, hid, hvalid, rfl⟩
    obtain ⟨previous, ids⟩ := progress
    refine guard_ok.mpr ⟨?_, guard_ok.mpr ⟨hid, bind_ok.mpr ⟨(), hvalid, rfl⟩⟩⟩
    intro hany
    obtain ⟨last, hlast, horder⟩ := (Option.any_eq_true _ _).mp hany
    have hlt := hbefore last hlast
    simp only [decide_eq_true_eq] at horder
    unfold RuleBefore at hlt
    rw [UInt32.lt_iff_toNat_lt, ← UInt32.toNat_inj] at hlt horder
    rcases hlt with hlt | ⟨hpriority, hlt⟩
    · omega
    · rcases horder with horder | ⟨_, hnot⟩
      · omega
      · exact hnot hlt

/-- The loop over the rules passes what is in order, has no name twice and is valid rule by rule. -/
theorem checkRules_ok_iff {rules : List AclRule} {progress : Option AclRule × List String} :
    (∃ progress', rules.foldlM (AclPolicy.checkRule f routes) progress = .ok progress') ↔
      (progress.1.toList ++ rules).Pairwise RuleBefore ∧ (rules.map AclRule.id).Nodup ∧
        ∀ rule ∈ rules, rule.id ∉ progress.2 ∧ validateRule f rule routes = .ok () := by
  induction rules generalizing progress with
  | nil =>
    have hnone : (progress.1.toList ++ []).Pairwise RuleBefore := by
      cases progress.1 <;> simp
    exact ⟨fun _ => ⟨hnone, List.nodup_nil, by simp⟩, fun _ => ⟨progress, rfl⟩⟩
  | cons rule rules ih =>
    constructor
    · rintro ⟨progress', h⟩
      have hchain := (AclPolicy.rules_isChain h).pairwise
      rw [List.foldlM_cons] at h
      obtain ⟨next, hnext, hrest⟩ := bind_ok.mp h
      obtain ⟨_, hid, hvalid, rfl⟩ := checkRule_ok_iff.mp hnext
      obtain ⟨_, hnodup, hall⟩ := ih.mp ⟨progress', hrest⟩
      refine ⟨hchain, List.nodup_cons.mpr ⟨fun hmem => ?_, hnodup⟩, List.forall_mem_cons.mpr ⟨⟨hid, hvalid⟩, ?_⟩⟩
      · obtain ⟨other, hother, heq⟩ := List.mem_map.mp hmem
        exact (hall other hother).1 (List.mem_cons.mpr (Or.inl heq))
      · intro other hother
        obtain ⟨hfree, hother⟩ := hall other hother
        exact ⟨fun hmem => hfree (List.mem_cons_of_mem _ hmem), hother⟩
    · rintro ⟨hpair, hnodup, hall⟩
      obtain ⟨hnotin, hnodup⟩ := List.nodup_cons.mp hnodup
      obtain ⟨⟨hid, hvalid⟩, hrest⟩ := List.forall_mem_cons.mp hall
      obtain ⟨_, hpair', hcross⟩ := List.pairwise_append.mp hpair
      have hnext : AclPolicy.checkRule f routes progress rule = .ok (some rule, rule.id :: progress.2) :=
        checkRule_ok_iff.mpr ⟨fun previous hprevious =>
          hcross previous (Option.mem_toList.mpr hprevious) rule List.mem_cons_self, hid, hvalid, rfl⟩
      obtain ⟨progress', hfold⟩ := (@ih (some rule, rule.id :: progress.2)).mpr ⟨hpair', hnodup, by
        intro other hother
        obtain ⟨hfree, hother'⟩ := hrest other hother
        refine ⟨fun hmem => ?_, hother'⟩
        rcases List.mem_cons.mp hmem with heq | hmem
        · exact hnotin (List.mem_map.mpr ⟨other, hother, heq⟩)
        · exact hfree hmem⟩
      exact ⟨progress', by rw [List.foldlM_cons]; exact bind_ok.mpr ⟨_, hnext, hfold⟩⟩

theorem before_canonicalRule {left right : AclRule} (h : RuleBefore left right) :
    RuleBefore (canonicalRule left) (canonicalRule right) := h

/-- If some arrangement of the rules compiles, then the canonical one does. -/
theorem compile_canonicalRules {configuration : ConfigurationPayload} {rules rules' : List AclRule}
    {policy : AclPolicy} (h : Rearranged SameRule rules rules')
    (hcompile : AclPolicy.compile f { configuration with policies := rules' } = .ok policy) :
    ∃ policy', AclPolicy.compile f { configuration with policies := canonicalRules rules } = .ok policy' := by
  obtain ⟨hversion, hcompile⟩ := guard_ok.mp hcompile
  obtain ⟨hcount, hcompile⟩ := guard_ok.mp hcompile
  obtain ⟨subjects, hsubjects, hcompile⟩ := bind_ok.mp hcompile
  obtain ⟨subnetRoutes, hroutes, hcompile⟩ := bind_ok.mp hcompile
  obtain ⟨subnetSubjects, hsubnets, hcompile⟩ := bind_ok.mp hcompile
  obtain ⟨last, hrules, _⟩ := bind_ok.mp hcompile
  obtain ⟨hpair, hnodup, hvalid⟩ := checkRules_ok_iff.mp ⟨last, hrules⟩
  have hstrict : (rules'.map canonicalRule).Pairwise RuleBefore :=
    List.pairwise_map.mpr (hpair.imp before_canonicalRule)
  have hsame := canonicalRules_of_strict h hstrict
  have hids : ((rules'.map canonicalRule).map AclRule.id) = rules'.map AclRule.id := by
    rw [List.map_map]
    rfl
  obtain ⟨last', hrules'⟩ := (@checkRules_ok_iff f subnetRoutes (rules'.map canonicalRule) (none, [])).mpr
    ⟨hstrict, by rw [hids]; exact hnodup, by
      intro rule hrule
      obtain ⟨original, horiginal, rfl⟩ := List.mem_map.mp hrule
      exact ⟨by simp, validateRule_canonical (hvalid original horiginal).2⟩⟩
  have hlength : (canonicalRules rules).length = rules'.length := by
    rw [hsame, List.length_map]
  refine ⟨⟨canonicalRules rules, subjects, subnetSubjects⟩, guard_ok.mpr ⟨hversion, guard_ok.mpr ⟨?_,
    bind_ok.mpr ⟨subjects, hsubjects, bind_ok.mpr ⟨subnetRoutes, hroutes, bind_ok.mpr
      ⟨subnetSubjects, hsubnets, bind_ok.mpr ⟨last', ?_, rfl⟩⟩⟩⟩⟩⟩⟩
  · show ¬(canonicalRules rules).length > maxRules
    rw [hlength]
    exact hcount
  · show (canonicalRules rules).foldlM _ _ = _
    rw [hsame]
    exact hrules'

end Compile

end XsNexus

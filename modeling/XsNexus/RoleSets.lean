import XsNexus.NodeState

namespace XsNexus

open ByteCodec

/-- The order the tags are sorted in -/
def sortTags (tags : List Bytes) : List Bytes := tags.insertionSort fun left right => ¬right < left

/-- A text behind its length -/
def lengthPrefixed (bytes : Bytes) : Bytes := (u16ToBe (UInt16.ofNat bytes.length)).val ++ bytes

/-- What `role_set_digest` hands to the hash, for a list it accepts. -/
def roleSetPreimage (roleBitmap : UInt32) (tags : List String) : Option Bytes :=
  if tags.length > 32 then none
  else
    let ordered := sortTags (tags.map utf8)
    if (ordered.zip ordered.tail).any fun (left, right) => left = right then none
    else if !tags.all validRoleTag then none
    else
      some (roleSetDomain ++ (u32ToBe roleBitmap).val ++
        (u16ToBe (UInt16.ofNat ordered.length)).val ++ ordered.flatMap lengthPrefixed)

theorem roleSetDigest_eq_preimage (c : Crypto) (roleBitmap : UInt32) (tags : List String) :
    roleSetDigest c roleBitmap tags = (roleSetPreimage roleBitmap tags).map c.sha256 := by
  unfold roleSetDigest roleSetPreimage
  show (if tags.length > 32 then none else if ((sortTags (tags.map utf8)).zip
    (sortTags (tags.map utf8)).tail).any _ = true then none else _) = _
  dsimp only
  by_cases hcount : tags.length > 32
  · rw [if_pos hcount, if_pos hcount]
    rfl
  · rw [if_neg hcount, if_neg hcount]
    split
    next => rfl
    next =>
      split
      next => rfl
      next => rfl

section Order

theorem perm_sortTags (tags : List Bytes) : (sortTags tags).Perm tags := List.perm_insertionSort _ tags

theorem pairwise_sortTags (tags : List Bytes) :
    (sortTags tags).Pairwise fun left right => ¬right < left := by
  have : Std.Total fun left right : Bytes => ¬right < left := ⟨fun left right => List.le_total left right⟩
  have : IsTrans Bytes fun left right => ¬right < left := ⟨fun _ _ _ hab hbc => List.le_trans hab hbc⟩
  exact List.pairwise_insertionSort _ tags

/-- Sorting forgets the order and nothing else. -/
theorem sortTags_eq_iff {tags tags' : List Bytes} : sortTags tags = sortTags tags' ↔ tags.Perm tags' := by
  constructor
  · intro heq
    have hleft := perm_sortTags tags
    rw [heq] at hleft
    exact hleft.symm.trans (perm_sortTags tags')
  · intro hperm
    have hsorted : (sortTags tags).Perm (sortTags tags') :=
      ((perm_sortTags tags).trans hperm).trans (perm_sortTags tags').symm
    refine hsorted.eq_of_pairwise ?_ (pairwise_sortTags tags) (pairwise_sortTags tags')
    intro left right _ _ hle hge
    exact List.le_antisymm hle hge

theorem map_utf8_perm_iff {tags tags' : List String} :
    (tags.map utf8).Perm (tags'.map utf8) ↔ tags.Perm tags' :=
  List.map_perm_map_iff fun _ _ h => utf8_injective h

end Order

section Encoding

theorem u16ToBe_injective {a b : UInt16} (h : (u16ToBe a).val = (u16ToBe b).val) : a = b := by
  have hblock : u16ToBe a = u16ToBe b := Subtype.ext h
  rw [← u16FromBe_toBe a, hblock, u16FromBe_toBe]

theorem u32ToBe_injective {a b : UInt32} (h : (u32ToBe a).val = (u32ToBe b).val) : a = b := by
  have hblock : u32ToBe a = u32ToBe b := Subtype.ext h
  rw [← u32FromBe_toBe a, hblock, u32FromBe_toBe]

/-- The length in front tells where a tag ends. -/
theorem lengthPrefixed_append_inj {a b rest rest' : Bytes} (ha : a.length < 2 ^ 16)
    (hb : b.length < 2 ^ 16) (h : lengthPrefixed a ++ rest = lengthPrefixed b ++ rest') :
    a = b ∧ rest = rest' := by
  unfold lengthPrefixed at h
  rw [List.append_assoc, List.append_assoc] at h
  obtain ⟨hlength, h⟩ := List.append_inj h (by simp)
  have hword := congrArg UInt16.toNat (u16ToBe_injective hlength)
  rw [UInt16.toNat_ofNat_of_lt' ha, UInt16.toNat_ofNat_of_lt' hb] at hword
  exact List.append_inj h hword

theorem flatMap_lengthPrefixed_inj {tags tags' : List Bytes} (hcount : tags.length = tags'.length)
    (hshort : ∀ tag ∈ tags, tag.length < 2 ^ 16) (hshort' : ∀ tag ∈ tags', tag.length < 2 ^ 16)
    (h : tags.flatMap lengthPrefixed = tags'.flatMap lengthPrefixed) : tags = tags' := by
  induction tags generalizing tags' with
  | nil => exact (List.length_eq_zero_iff.mp hcount.symm).symm
  | cons tag tags ih =>
    cases tags' with
    | nil => simp at hcount
    | cons tag' tags' =>
      rw [List.flatMap_cons, List.flatMap_cons] at h
      obtain ⟨hfirst, hrest⟩ := lengthPrefixed_append_inj (hshort tag List.mem_cons_self)
        (hshort' tag' List.mem_cons_self) h
      have hcount : tags.length = tags'.length := by simpa using hcount
      have hsame := ih hcount (fun t ht => hshort t (List.mem_cons_of_mem _ ht))
        (fun t ht => hshort' t (List.mem_cons_of_mem _ ht)) hrest
      rw [hfirst, hsame]

end Encoding

theorem validRoleTag_length {tag : String} (h : validRoleTag tag = true) : (utf8 tag).length ≤ 63 := by
  unfold validRoleTag at h
  dsimp only at h
  split at h
  next => simp at h
  next hbounds =>
    have hshort := (not_or.mp (not_or.mp hbounds).2).1
    omega

theorem roleSetPreimage_some {roleBitmap : UInt32} {tags : List String} {preimage : Bytes}
    (h : roleSetPreimage roleBitmap tags = some preimage) :
    tags.length ≤ 32 ∧ (∀ tag ∈ tags, validRoleTag tag = true) ∧
      preimage = roleSetDomain ++ (u32ToBe roleBitmap).val ++
        (u16ToBe (UInt16.ofNat (sortTags (tags.map utf8)).length)).val ++
          (sortTags (tags.map utf8)).flatMap lengthPrefixed := by
  unfold roleSetPreimage at h
  dsimp only at h
  split at h
  next => simp at h
  next hcount =>
    split at h
    next => simp at h
    next =>
      split at h
      next => simp at h
      next hvalid =>
        have hall : tags.all validRoleTag = true := by simpa using hvalid
        exact ⟨by omega, List.all_eq_true.mp hall, (Option.some.inj h).symm⟩

/-- Whether a list of tags is accepted, and what is hashed for it, is the same in every order. -/
theorem roleSetPreimage_perm (roleBitmap : UInt32) {tags tags' : List String} (h : tags.Perm tags') :
    roleSetPreimage roleBitmap tags = roleSetPreimage roleBitmap tags' := by
  have hsorted : sortTags (tags.map utf8) = sortTags (tags'.map utf8) :=
    sortTags_eq_iff.mpr (map_utf8_perm_iff.mpr h)
  have hall : tags.all validRoleTag = tags'.all validRoleTag := by
    rw [Bool.eq_iff_iff, List.all_eq_true, List.all_eq_true]
    exact ⟨fun hv tag ht => hv tag (h.mem_iff.mpr ht), fun hv tag ht => hv tag (h.mem_iff.mp ht)⟩
  unfold roleSetPreimage
  rw [hsorted, hall, h.length_eq]

theorem roleSetPreimage_inj {roleBitmap roleBitmap' : UInt32} {tags tags' : List String}
    {preimage : Bytes} (h : roleSetPreimage roleBitmap tags = some preimage)
    (h' : roleSetPreimage roleBitmap' tags' = some preimage) :
    roleBitmap = roleBitmap' ∧ tags.Perm tags' := by
  obtain ⟨hcount, hvalid, heq⟩ := roleSetPreimage_some h
  obtain ⟨hcount', hvalid', heq'⟩ := roleSetPreimage_some h'
  rw [heq, List.append_assoc, List.append_assoc, List.append_assoc, List.append_assoc] at heq'
  obtain ⟨hbitmap, hrest⟩ := List.append_inj (List.append_cancel_left heq') (by simp)
  obtain ⟨hlengths, htags⟩ := List.append_inj hrest (by simp)
  have hlength : (sortTags (tags.map utf8)).length = tags.length := by
    rw [(perm_sortTags _).length_eq, List.length_map]
  have hlength' : (sortTags (tags'.map utf8)).length = tags'.length := by
    rw [(perm_sortTags _).length_eq, List.length_map]
  have hword := congrArg UInt16.toNat (u16ToBe_injective hlengths)
  rw [UInt16.toNat_ofNat', UInt16.toNat_ofNat', hlength, hlength', Nat.mod_eq_of_lt (by omega),
    Nat.mod_eq_of_lt (by omega)] at hword
  have hcounts : (sortTags (tags.map utf8)).length = (sortTags (tags'.map utf8)).length := by omega
  have hshort : ∀ {tags : List String}, (∀ tag ∈ tags, validRoleTag tag = true) →
      ∀ tag ∈ sortTags (tags.map utf8), tag.length < 2 ^ 16 := by
    intro tags hvalid bytes hbytes
    obtain ⟨tag, htag, rfl⟩ := List.mem_map.mp ((perm_sortTags _).mem_iff.mp hbytes)
    have hle := validRoleTag_length (hvalid tag htag)
    omega
  have hsorted := flatMap_lengthPrefixed_inj hcounts (hshort hvalid) (hshort hvalid') htags
  exact ⟨u32ToBe_injective hbitmap, map_utf8_perm_iff.mp (sortTags_eq_iff.mp hsorted)⟩

/-- Whether a list is accepted does not depend on the bitmap. -/
theorem roleSetPreimage_isSome (roleBitmap roleBitmap' : UInt32) (tags : List String) :
    (roleSetPreimage roleBitmap tags).isSome = (roleSetPreimage roleBitmap' tags).isSome := by
  unfold roleSetPreimage
  dsimp only
  split
  next => rfl
  next =>
    split
    next => rfl
    next =>
      split
      next => rfl
      next => rfl

/-- The hashed bytes stand for the bitmap and the set of tags. -/
theorem roleSetDigest_canonical {roleBitmap roleBitmap' : UInt32} {tags tags' : List String} :
    (∀ c, roleSetDigest c roleBitmap tags = (roleSetPreimage roleBitmap tags).map c.sha256) ∧
      (∀ preimage preimage', roleSetPreimage roleBitmap tags = some preimage →
        roleSetPreimage roleBitmap' tags' = some preimage' →
          (preimage = preimage' ↔ roleBitmap = roleBitmap' ∧ tags.Perm tags')) ∧
      (tags.Perm tags' → ∀ c, (roleSetDigest c roleBitmap tags).isSome =
        (roleSetDigest c roleBitmap' tags').isSome) := by
  refine ⟨fun c => roleSetDigest_eq_preimage c roleBitmap tags, ?_, ?_⟩
  · intro preimage preimage' h h'
    constructor
    · rintro rfl
      exact roleSetPreimage_inj h h'
    · rintro ⟨rfl, hperm⟩
      rw [roleSetPreimage_perm roleBitmap hperm, h'] at h
      exact (Option.some.inj h).symm
  · intro hperm c
    rw [roleSetDigest_eq_preimage, roleSetDigest_eq_preimage, roleSetPreimage_perm roleBitmap hperm,
      Option.isSome_map, Option.isSome_map]
    exact roleSetPreimage_isSome roleBitmap roleBitmap' tags'

theorem roleSetDigest_canonical_gateway :
    roleSetPreimage 1 ["linux", "gateway"] = roleSetPreimage 1 ["gateway", "linux"] ∧
      (roleSetPreimage 1 ["linux", "gateway"]).isSome := by
  have hsome : (roleSetPreimage 1 ["linux", "gateway"]).isSome = true := by decide +kernel
  obtain ⟨preimage, h⟩ := Option.isSome_iff_exists.mp hsome
  have hperm : ["linux", "gateway"].Perm ["gateway", "linux"] := .swap _ _ _
  obtain ⟨_, hiff, haccepts⟩ := @roleSetDigest_canonical 1 1 ["linux", "gateway"] ["gateway", "linux"]
  have hother := haccepts hperm .transparent
  rw [roleSetDigest_eq_preimage, roleSetDigest_eq_preimage, Option.isSome_map, Option.isSome_map, hsome]
    at hother
  obtain ⟨preimage', h'⟩ := Option.isSome_iff_exists.mp hother.symm
  have hsame := (hiff preimage preimage' h h').mpr ⟨rfl, hperm⟩
  exact ⟨by rw [h, h', hsame], hsome⟩

end XsNexus

import XsNexus.ApplicableConfiguration
import XsNexus.NewestWins

namespace XsNexus

open NewestWins

/-- A configuration with what its validation gave. -/
structure ValidatedConfiguration where
  configuration : SignedConfiguration
  payload : ConfigurationPayload
  sha256 : String

def ValidatedConfiguration.version (validated : ValidatedConfiguration) : Nat :=
  validated.configuration.version.toNat

namespace NodeState

def stored (state : NodeState) : ValidatedConfiguration :=
  ⟨state.configuration, state.configurationPayload, state.configurationSha256⟩

def withStored (state : NodeState) (validated : ValidatedConfiguration) : NodeState :=
  { state with
    configuration := validated.configuration
    configurationPayload := validated.payload
    configurationSha256 := validated.sha256 }

section Delivery

variable (c : Crypto) (f : Formats) (identity : SigningKey)

/-- The configuration with its payload and hash, if it is valid for the node. -/
def validated (state : NodeState) (configuration : SignedConfiguration) :
    Option ValidatedConfiguration :=
  match state.validateUpdate c f configuration identity with
  | .ok (payload, hash) => some ⟨configuration, payload, hash⟩
  | .error _ => none

/-- The state after the configurations were delivered one after another. -/
def deliver (state : NodeState) (configurations : List SignedConfiguration) : NodeState :=
  configurations.foldl (fun state configuration =>
    (state.applyConfiguration c f configuration identity).2) state

def ValidUpdate (state : NodeState) (configuration : SignedConfiguration) : Prop :=
  ∃ payload hash, state.validateUpdate c f configuration identity = .ok (payload, hash)

end Delivery

section Refinement

variable {c : Crypto} {f : Formats} {identity : SigningKey} {state : NodeState}
  {configuration : SignedConfiguration} {configurations : List SignedConfiguration}

/-- `apply_configuration` keeps the newer of what it has and what is valid. -/
theorem applyConfiguration_snd :
    (state.applyConfiguration c f configuration identity).2 =
      match state.validated c f identity configuration with
      | some offered => state.withStored (keep ValidatedConfiguration.version state.stored offered)
      | none => state := by
  unfold applyConfiguration validated
  cases hvalidate : state.validateUpdate c f configuration identity with
  | error e => rfl
  | ok result =>
    obtain ⟨payload, hash⟩ := result
    have hkeep : keep ValidatedConfiguration.version state.stored ⟨configuration, payload, hash⟩ =
        if state.configuration.version < configuration.version then ⟨configuration, payload, hash⟩
        else state.stored := by
      unfold keep ValidatedConfiguration.version NodeState.stored
      by_cases hlt : state.configuration.version < configuration.version
      · rw [if_pos hlt, if_pos (UInt64.lt_iff_toNat_lt.mp hlt)]
      · rw [if_neg hlt, if_neg (fun h => hlt (UInt64.lt_iff_toNat_lt.mpr h))]
    dsimp only
    rw [hkeep]
    by_cases hlt : state.configuration.version < configuration.version
    · have hne : configuration.version ≠ state.configuration.version := by
        intro heq
        rw [heq] at hlt
        exact UInt64.lt_irrefl _ hlt
      rw [if_neg, if_neg hne, if_pos hlt]
      · rfl
      · rintro (hgt | ⟨heq, _⟩)
        · exact UInt64.lt_asymm hgt hlt
        · exact hne heq
    · rw [if_neg hlt]
      split
      next => rfl
      next hguard =>
        have heq : configuration.version = state.configuration.version := by
          rw [not_or, UInt64.lt_iff_toNat_lt] at hguard
          rw [UInt64.lt_iff_toNat_lt] at hlt
          exact UInt64.toNat_inj.mp (by omega)
        rw [if_pos heq]
        rfl

theorem validated_withStored (other : ValidatedConfiguration) :
    (state.withStored other).validated c f identity = state.validated c f identity := rfl

/-- A run of `apply_configuration` is a run of a register over the valid configurations. -/
theorem deliver_eq :
    state.deliver c f identity configurations = state.withStored
      (newest ValidatedConfiguration.version state.stored
        (configurations.filterMap (state.validated c f identity))) := by
  induction configurations generalizing state with
  | nil => rfl
  | cons configuration configurations ih =>
    show ((state.applyConfiguration c f configuration identity).2).deliver c f identity configurations = _
    rw [applyConfiguration_snd, List.filterMap_cons]
    cases hvalid : state.validated c f identity configuration with
    | none => exact ih
    | some offered =>
      dsimp only
      rw [ih, validated_withStored]
      rfl

theorem version_deliver (state : NodeState) (configurations : List SignedConfiguration) :
    state.configuration.version.toNat ≤
      (state.deliver c f identity configurations).configuration.version.toNat := by
  rw [deliver_eq]
  exact le_newest ValidatedConfiguration.version state.stored _

theorem applyConfiguration_unchanged
    (h : (state.applyConfiguration c f configuration identity).1 ≠ .ok true) :
    (state.applyConfiguration c f configuration identity).2 = state := by
  revert h
  unfold applyConfiguration
  split
  next => exact fun _ => rfl
  next =>
    split
    next => exact fun _ => rfl
    next =>
      split
      next => exact fun _ => rfl
      next => exact fun h => absurd rfl h

theorem mem_validated {offered : ValidatedConfiguration} :
    offered ∈ configurations.filterMap (state.validated c f identity) ↔
      offered.configuration ∈ configurations ∧
        state.validateUpdate c f offered.configuration identity = .ok (offered.payload, offered.sha256) := by
  rw [List.mem_filterMap]
  unfold validated
  constructor
  · rintro ⟨configuration, hmem, hvalid⟩
    split at hvalid
    next payload hash hvalidate =>
      cases Option.some.inj hvalid
      exact ⟨hmem, hvalidate⟩
    next => cases hvalid
  · rintro ⟨hmem, hvalidate⟩
    refine ⟨offered.configuration, hmem, ?_⟩
    rw [hvalidate]

/-- No two valid configurations among those delivered share a version with different content. -/
def NoEquivocation (c : Crypto) (f : Formats) (identity : SigningKey) (state : NodeState)
    (configurations : List SignedConfiguration) : Prop :=
  ∀ left ∈ configurations, ∀ right ∈ configurations, state.ValidUpdate c f identity left →
    state.ValidUpdate c f identity right → left.version = right.version → left = right

theorem validated_distinct (h : NoEquivocation c f identity state configurations) :
    ∀ left ∈ configurations.filterMap (state.validated c f identity),
      ∀ right ∈ configurations.filterMap (state.validated c f identity),
        left.version = right.version → left = right := by
  intro left hleft right hright hversion
  obtain ⟨hl, hlv⟩ := mem_validated.mp hleft
  obtain ⟨hr, hrv⟩ := mem_validated.mp hright
  have hsame : left.configuration = right.configuration :=
    h _ hl _ hr ⟨_, _, hlv⟩ ⟨_, _, hrv⟩ (UInt64.toNat_inj.mp hversion)
  obtain ⟨configuration, payload, sha256⟩ := left
  dsimp only at hsame hlv
  subst hsame
  rw [hrv] at hlv
  cases hlv
  rfl

/-- Deliveries only move forward, what is refused leaves no trace, and the newest valid configuration
is what is left, whichever way they came. -/
theorem deliveries_converge (state : NodeState) :
    (∀ before after : List SignedConfiguration,
        (state.deliver c f identity before).configuration.version ≤
          (state.deliver c f identity (before ++ after)).configuration.version) ∧
      (∀ configuration, (state.applyConfiguration c f configuration identity).1 ≠ .ok true →
        (state.applyConfiguration c f configuration identity).2 = state) ∧
      ∀ configurations, NoEquivocation c f identity state configurations →
        ((∀ configuration ∈ configurations, state.ValidUpdate c f identity configuration →
            configuration.version ≤ state.configuration.version) →
          state.deliver c f identity configurations = state) ∧
        (∀ configuration ∈ configurations, ∀ payload hash,
          state.validateUpdate c f configuration identity = .ok (payload, hash) →
          state.configuration.version < configuration.version →
          (∀ other ∈ configurations, state.ValidUpdate c f identity other →
            other.version ≤ configuration.version) →
          state.deliver c f identity configurations = { state with
            configuration := configuration
            configurationPayload := payload
            configurationSha256 := hash }) ∧
        ∀ configurations', (∀ configuration, configuration ∈ configurations' ↔
            configuration ∈ configurations) →
          state.deliver c f identity configurations' = state.deliver c f identity configurations := by
  refine ⟨?_, fun _ => applyConfiguration_unchanged, fun configurations hdistinct => ⟨?_, ?_, ?_⟩⟩
  · intro before after
    rw [UInt64.le_iff_toNat_le]
    have hsplit : state.deliver c f identity (before ++ after) =
        (state.deliver c f identity before).deliver c f identity after := List.foldl_append
    rw [hsplit]
    exact version_deliver _ after
  · intro hold
    rw [deliver_eq, newest_eq_stored]
    · rfl
    · intro offered hoffered
      obtain ⟨hmem, hvalid⟩ := mem_validated.mp hoffered
      exact UInt64.le_iff_toNat_le.mp (hold _ hmem ⟨_, _, hvalid⟩)
  · intro configuration hmem payload hash hvalid hnewer hmax
    have hoffered : (⟨configuration, payload, hash⟩ : ValidatedConfiguration) ∈
        configurations.filterMap (state.validated c f identity) := mem_validated.mpr ⟨hmem, hvalid⟩
    rw [deliver_eq, newest_eq_of_max (validated_distinct hdistinct) hoffered]
    · rfl
    · exact UInt64.lt_iff_toNat_lt.mp hnewer
    · intro other hother
      obtain ⟨hmem', hvalid'⟩ := mem_validated.mp hother
      exact UInt64.le_iff_toNat_le.mp (hmax _ hmem' ⟨_, _, hvalid'⟩)
  · intro configurations' hsame
    rw [deliver_eq, deliver_eq, newest_congr (validated_distinct hdistinct)]
    intro offered
    rw [mem_validated, mem_validated, hsame]

end Refinement

/-- The node of the sample before any configuration. -/
def unconfiguredState : NodeState := sampleNodeState.withStored ⟨signedSample 0 [], samplePayload, ""⟩

theorem sampleConfiguration_valid : unconfiguredState.validateUpdate .transparent sampleFormats
    sampleNodeState.configuration sampleIdentityKey =
      .ok (samplePayload, sampleNodeState.configurationSha256) := by
  have hkey : verifyingKey .transparent sampleFormats
      unconfiguredState.configurationSigningPublicKeyBase64 = .ok ⟨sampleConfigurationKey.seed⟩ := by
    have hseed := decodeFixed_urlEncode
      (fun bytes => if bytes = utf8 samplePayloadJson then some samplePayload else none)
      sampleConfigurationKey.seed (by omega) (by decide)
    exact Checks.bind_ok.mpr ⟨_, hseed, rfl⟩
  exact Checks.bind_ok.mpr ⟨_, hkey, sampleNodeState_payload⟩

theorem deliveries_converge_sample :
    (unconfiguredState.deliver .transparent sampleFormats sampleIdentityKey
        [signedSample 0 [], sampleNodeState.configuration, signedSample 0 []]).configuration =
      sampleNodeState.configuration := by
  have hdistinct : NoEquivocation .transparent sampleFormats sampleIdentityKey unconfiguredState
      [signedSample 0 [], sampleNodeState.configuration, signedSample 0 []] := by
    intro left hleft right hright _ _ hversion
    simp only [List.mem_cons, List.not_mem_nil, or_false] at hleft hright
    rcases hleft with rfl | rfl | rfl <;> rcases hright with rfl | rfl | rfl
    all_goals first | rfl | exact absurd hversion (by decide)
  have hmem : sampleNodeState.configuration ∈
      [signedSample 0 [], sampleNodeState.configuration, signedSample 0 []] :=
    List.mem_cons_of_mem _ List.mem_cons_self
  have hfinal := ((deliveries_converge unconfiguredState).2.2 _ hdistinct).2.1 _ hmem _ _
    sampleConfiguration_valid (by decide) (by
      intro other hother _
      simp only [List.mem_cons, List.not_mem_nil, or_false] at hother
      rcases hother with rfl | rfl | rfl <;> decide)
  rw [hfinal]

end NodeState

end XsNexus

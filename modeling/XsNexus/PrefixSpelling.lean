import XsNexus.AddressText
import XsNexus.RouteResolution

namespace XsNexus

open Checks

/-- What hands a subnet prefix to the program. -/
inductive PrefixInput
  | configuration (payload : ConfigurationPayload)
  | suggestion (subnetPrefix interfaceName addressPool : String)

namespace PrefixInput

def prefixes : PrefixInput → List String
  | configuration payload => payload.subnetRoutes.map fun route => route.subnetPrefix
  | suggestion subnetPrefix _ _ => [subnetPrefix]

def Accepted (f : Formats) : PrefixInput → Prop
  | configuration payload => ∃ policy, SubnetRoutePolicy.compile f payload = .ok policy
  | suggestion subnetPrefix interfaceName addressPool =>
    ∃ net, validateSubnetRouteSuggestion f subnetPrefix interfaceName addressPool = .ok net

/-- The prefix texts of the inputs, and the prefixes they are read as. -/
def Denotes (f : Formats) (inputs : Set PrefixInput) (text : String) (net : Ipv4Net) : Prop :=
  ∃ input ∈ inputs, text ∈ input.prefixes ∧ f.ipv4Net text = some net

theorem spelled_of_accepted {f : Formats} {input : PrefixInput} (h : input.Accepted f)
    {text : String} (htext : text ∈ input.prefixes) {net : Ipv4Net}
    (hnet : f.ipv4Net text = some net) : text = f.ipv4NetText net := by
  cases input with
  | configuration payload =>
    obtain ⟨policy, hpolicy⟩ := h
    obtain ⟨pool, hcompiled⟩ := SubnetRoutePolicy.compiled_of_compile hpolicy
    obtain ⟨route, hroute, rfl⟩ := List.mem_map.mp htext
    obtain ⟨compiled, _, hrow⟩ := hcompiled.of_route hroute
    have hsame := hrow.parsed
    rw [hnet] at hsame
    have hspelled := hrow.spelled
    rw [← Option.some.inj hsame] at hspelled
    exact hspelled
  | suggestion subnetPrefix interfaceName addressPool =>
    obtain ⟨accepted, haccepted⟩ := h
    have heq := List.mem_singleton.mp htext
    subst heq
    unfold validateSubnetRouteSuggestion at haccepted
    rw [hnet] at haccepted
    dsimp only at haccepted
    split at haccepted
    next => simp at haccepted
    next =>
      obtain ⟨hguard, _⟩ := guard_ok.mp haccepted
      simp only [not_or, not_not] at hguard
      exact hguard.1

end PrefixInput

open PrefixInput

/-- One spelling for each subnet: prefixes and sets of addresses are the same thing. -/
structure CanonicalPrefixes (f : Formats) (inputs : Set PrefixInput) : Prop where
  hostBits : ∀ text net, Denotes f inputs text net → net.addr.bits &&& net.hostmask = 0
  spelling : ∀ text net text' net', Denotes f inputs text net → Denotes f inputs text' net' →
    net.addresses = net'.addresses → text = text'
  equality : ∀ text net text' net', Denotes f inputs text net → Denotes f inputs text' net' →
    (net = net' ↔ net.addresses = net'.addresses)

theorem hostBits_eq_zero_iff {net : Ipv4Net} :
    net.addr.bits &&& net.hostmask = 0 ↔ net.trunc = net := by
  have hiff : net.addr.bits &&& net.hostmask = 0 ↔ net.addr.bits &&& ~~~net.hostmask = net.addr.bits := by
    constructor
    · intro h
      ext i hi
      have hbit := congrArg (fun bits : BitVec 32 => bits[i]) h
      simp only [BitVec.getElem_and, BitVec.getElem_not] at hbit ⊢
      revert hbit
      cases net.addr.bits[i] <;> cases net.hostmask[i] <;> simp
    · intro h
      rw [← h, BitVec.and_assoc]
      simp
  rw [hiff]
  constructor
  · intro h
    show Ipv4Net.mk ⟨net.addr.bits &&& ~~~net.hostmask⟩ net.prefixLen net.prefixLen_le = net
    rw [h]
  · intro h
    exact congrArg (fun net : Ipv4Net => net.addr.bits) h

/-- `Display` prints a prefix as it was read, so what is checked is not that the host bits are zero. -/
theorem canonical_prefixes_iff {f : Formats} (hround : ∀ net, f.ipv4Net (f.ipv4NetText net) = some net)
    {inputs : Set PrefixInput} (haccepted : ∀ input ∈ inputs, input.Accepted f) :
    CanonicalPrefixes f inputs ↔ ∀ input ∈ inputs, ∀ text ∈ input.prefixes, ∀ net,
      f.ipv4Net text = some net → text = f.ipv4NetText net.trunc := by
  have hspelled : ∀ text net, Denotes f inputs text net → text = f.ipv4NetText net := by
    rintro text net ⟨input, hinput, htext, hnet⟩
    exact spelled_of_accepted (haccepted input hinput) htext hnet
  constructor
  · intro hcanonical input hinput text htext net hnet
    have hdenotes : Denotes f inputs text net := ⟨input, hinput, htext, hnet⟩
    rw [hostBits_eq_zero_iff.mp (hcanonical.hostBits text net hdenotes)]
    exact hspelled text net hdenotes
  · intro htrunc
    have hcleared : ∀ text net, Denotes f inputs text net → net.trunc = net := by
      rintro text net ⟨input, hinput, htext, hnet⟩
      have hread := hround net.trunc
      rw [← htrunc input hinput text htext net hnet, hnet] at hread
      exact (Option.some.inj hread).symm
    have hequality : ∀ text net text' net', Denotes f inputs text net → Denotes f inputs text' net' →
        (net = net' ↔ net.addresses = net'.addresses) := by
      intro text net text' net' h h'
      rw [Ipv4Net.addresses_eq_iff, hcleared text net h, hcleared text' net' h']
    refine ⟨fun text net h => hostBits_eq_zero_iff.mpr (hcleared text net h), ?_, hequality⟩
    intro text net text' net' h h' haddresses
    rw [hspelled text net h, hspelled text' net' h', (hequality text net text' net' h h').mpr haddresses]

theorem sampleFormats_round (net : Ipv4Net) :
    sampleFormats.ipv4Net (sampleFormats.ipv4NetText net) = some net := by
  have hparse : sampleFormats.ipv4Net = parseIpv4Net := rfl
  have htext : sampleFormats.ipv4NetText = Ipv4Net.text := rfl
  rw [hparse, htext]
  exact parseIpv4Net_text net

theorem canonical_prefixes_office : CanonicalPrefixes sampleFormats {.configuration routedPayload} ↔
    ∀ input ∈ ({.configuration routedPayload} : Set PrefixInput), ∀ text ∈ input.prefixes, ∀ net,
      sampleFormats.ipv4Net text = some net → text = sampleFormats.ipv4NetText net.trunc := by
  refine canonical_prefixes_iff sampleFormats_round ?_
  intro input hinput
  obtain ⟨policy, hpolicy, _⟩ := routedPayload_compiles
  rw [Set.mem_singleton_iff.mp hinput]
  exact ⟨policy, hpolicy⟩

/-- The office subnet as a route of its fifth host. -/
def hostRoutedPayload : ConfigurationPayload :=
  { samplePayload with
    subnetRoutes := [⟨"office", "192.168.50.5/24", samplePeerNode.nodeIdBase64, .routed, "lan0", 100⟩] }

theorem host_bits_accepted :
    PrefixInput.Accepted sampleFormats (.configuration hostRoutedPayload) ∧
      PrefixInput.Accepted sampleFormats (.suggestion "192.168.50.5/24" "lan0" "100.88.0.0/16") ∧
      ¬CanonicalPrefixes sampleFormats {.configuration hostRoutedPayload} := by
  have hruns : (match SubnetRoutePolicy.compile sampleFormats hostRoutedPayload with
      | .ok _ => true
      | .error _ => false) = true ∧
      validateSubnetRouteSuggestion sampleFormats "192.168.50.5/24" "lan0" "100.88.0.0/16" =
        .ok ⟨.new 192 168 50 5, 24, by omega⟩ ∧
      sampleFormats.ipv4Net "192.168.50.5/24" = some ⟨.new 192 168 50 5, 24, by omega⟩ := by
    decide +kernel
  obtain ⟨hcompile, hsuggestion, hparse⟩ := hruns
  refine ⟨?_, ⟨_, hsuggestion⟩, fun hcanonical => ?_⟩
  · split at hcompile
    next policy hpolicy => exact ⟨policy, hpolicy⟩
    next => cases hcompile
  · have hzero := hcanonical.hostBits "192.168.50.5/24" _
      ⟨_, Set.mem_singleton _, List.mem_singleton.mpr rfl, hparse⟩
    exact absurd hzero (by decide)

end XsNexus

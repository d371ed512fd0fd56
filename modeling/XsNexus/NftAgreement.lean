import XsNexus.AddressText
import XsNexus.NftMessages

namespace XsNexus

open ByteCodec ByteMemory Netlink LinuxNetwork

namespace NftClient

section Trees

/-! The attributes that the requests are meant to carry, under the numbers of nftables -/

def word (value : Nat) : Bytes := beBytes 4 value

def text (value : String) : Bytes := utf8 value ++ [0]

def metaTree (key : Nat) : List Attribute := [.leaf 1 (word 1), .leaf 2 (word key)]

def compareTree (value : Bytes) : List Attribute :=
  [.leaf 1 (word 1), .leaf 2 (word 0), .nested 3 [.leaf 1 value]]

def destinationTree : List Attribute :=
  [.leaf 1 (word 1), .leaf 2 (word 1), .leaf 3 (word 16), .leaf 4 (word 4)]

def maskTree (mask : Bytes) : List Attribute :=
  [.leaf 1 (word 1), .leaf 2 (word 1), .leaf 3 (word 4), .nested 4 [.leaf 1 mask], .nested 5 [.leaf 1 (word 0)]]

def expressionTree (name : String) (data : List Attribute) : Attribute :=
  .nested 1 [.leaf 1 (text name), .nested 2 data]

/-- Masquerade what comes in from the project's interface and goes out to the prefix of the route; an address
needs no mask when the prefix covers all of it. -/
def natTree (projectInterfaceName : String) (route : GatewayRoute) : List Attribute :=
  [expressionTree "meta" (metaTree 6), expressionTree "cmp" (compareTree (text projectInterfaceName)),
    expressionTree "meta" (metaTree 7), expressionTree "cmp" (compareTree (text route.interfaceName)),
    expressionTree "payload" destinationTree] ++
  (if route.subnetPrefix.prefixLen < 32 then
    [expressionTree "bitwise" (maskTree (netmask route.subnetPrefix).octets.val)] else []) ++
  [expressionTree "cmp" (compareTree route.subnetPrefix.network.octets.val), expressionTree "masq" []]

def tableTree (tableName : String) : List Attribute := [.leaf 1 (text tableName), .leaf 6 nftOwnerMarker]

def chainTree (tableName : String) : List Attribute :=
  [.leaf 1 (text tableName), .leaf 3 (text "postrouting"), .nested 4 [.leaf 1 (word 4), .leaf 2 (word 100)],
    .leaf 7 (text "nat"), .leaf 12 nftOwnerMarker]

def ruleTree (tableName projectInterfaceName : String) (route : GatewayRoute) : List Attribute :=
  [.leaf 1 (text tableName), .leaf 2 (text "postrouting"), .nested 4 (natTree projectInterfaceName route),
    .leaf 7 nftOwnerMarker]

def deletedTree (tableName : String) : List Attribute := [.leaf 1 (text tableName)]

/-- A batch of one request: its beginning, the request for the address family of IPv4 and its end, which has
the sequence number behind the request's. -/
def batch (type flags : Nat) (sequence : UInt32) (attributes : Bytes) : List Message :=
  [⟨16, 5, 0, 0, [0, 0, 0, 10]⟩, ⟨2560 + type, flags, sequence.toNat, 0, [2, 0, 0, 0] ++ attributes⟩,
    ⟨17, 1, (sequence.toNat + 1) % 2 ^ 32, 0, [0, 0, 0, 10]⟩]

/-- The bytes are a batch of three messages, which carries the attributes and is read back as them. All lengths
fit their fields, so each length that the encoding writes is the one of the bytes it stands for. -/
structure Carries (order : ByteOrder) (bytes : Bytes) (type flags : Nat) (sequence : UInt32)
    (attributes : List Attribute) : Prop where
  encoded : bytes =
    (batch type flags sequence (encodeAll order attributes)).flatMap (Message.encode order)
  messagesFit : ∀ message ∈ batch type flags sequence (encodeAll order attributes), message.Fits
  attributesFit : AllFit order attributes
  messages : messages order bytes = (batch type flags sequence (encodeAll order attributes), false)
  attributes : parse order (encodeAll order attributes) = some attributes

/-- What a response says: the first error message with the sequence number decides among the well-formed
messages; without one it is an error if a malformed message stands behind them. -/
def errorOutcome (order : ByteOrder) (message : Message) : Except Int Unit :=
  if message.payload.length < 4 then .error (-1)
  else
    let error := signed32 (number order message.payload 0 4)
    if error = 0 then .ok () else .error (saturatingNeg32 error)

def acknowledgement (order : ByteOrder) (sequence : UInt32) (response : List Message × Bool) : Except Int Unit :=
  match response.1.find? fun message => message.type = 2 ∧ message.sequence = sequence.toNat with
  | some message => errorOutcome order message
  | none => .error (if response.2 then -1 else ackNotFound)

end Trees

variable {order : ByteOrder}

/-- The bytes of some attributes, with a bound on their length -/
structure Builds (order : ByteOrder) (bytes : Bytes) (tree : List Attribute) (bound : Nat) : Prop where
  encoded : bytes = encodeAll order tree
  fits : AllFit order tree
  length_le : bytes.length ≤ bound

theorem u16OrMax_of_lt {length : Nat} (h : length < 2 ^ 16) : u16OrMax length = length := if_pos h

theorem u32OrMax_of_lt {length : Nat} (h : length < 2 ^ 32) : u32OrMax length = length := if_pos h

theorem pushAttribute_eq (target : Bytes) (attributeType : UInt16) {value : Bytes}
    (h : 4 + value.length < 2 ^ 16) : pushAttribute order target attributeType value =
      target ++ encodeAttribute order attributeType.toNat value := by
  unfold pushAttribute encodeAttribute
  dsimp only
  rw [u16OrMax_of_lt h]
  simp only [padding, List.append_assoc]

theorem toNat_nested {attributeType : UInt16} (h : attributeType.toNat < nestedFlag) :
    (attributeType ||| nlaFNested).toNat = attributeType.toNat + nestedFlag := by
  have hor : (attributeType ||| nlaFNested).toNat = attributeType.toNat ||| 2 ^ 15 := UInt16.toNat_or _ _
  have hadd : 2 ^ 15 + attributeType.toNat = 2 ^ 15 ||| attributeType.toNat :=
    Nat.two_pow_add_eq_or_of_lt h 1
  rw [hor, Nat.or_comm]
  unfold nestedFlag
  omega

namespace Builds

variable {bytes value data : Bytes} {tree children : List Attribute} {bound size : Nat}

theorem nil : Builds order [] [] 0 := ⟨rfl, trivial, Nat.le_refl 0⟩

theorem mono (h : Builds order bytes tree bound) (hle : bound ≤ size) : Builds order bytes tree size :=
  ⟨h.encoded, h.fits, h.length_le.trans hle⟩

theorem append {item : Attribute} (h : Builds order bytes tree bound) (hfits : item.Fits order)
    (hsize : (item.encode order).length ≤ size) :
    Builds order (bytes ++ item.encode order) (tree ++ [item]) (bound + size) := by
  refine ⟨?_, allFit_append h.fits ⟨hfits, trivial⟩, ?_⟩
  · rw [encodeAll_append, h.encoded, encodeAll, encodeAll, List.append_nil]
  · have hlength := h.length_le
    rw [List.length_append]
    omega

theorem pushAttribute (h : Builds order bytes tree bound) (type : UInt16) (htype : type.toNat < nestedFlag)
    (hvalue : value.length ≤ size) (hsize : 4 + size < 2 ^ 16) :
    Builds order (pushAttribute order bytes type value) (tree ++ [.leaf type.toNat value])
      (bound + (size + 7)) := by
  have hlength : 4 + value.length < 2 ^ 16 := by omega
  have hencode : encodeAttribute order type.toNat value = Attribute.encode order (.leaf type.toNat value) := rfl
  rw [pushAttribute_eq bytes type hlength, hencode]
  refine h.append ⟨htype, hlength⟩ ?_
  have hlt := align4_lt (4 + value.length)
  rw [Attribute.encode, length_encodeAttribute]
  omega

theorem pushNestedAttribute (h : Builds order bytes tree bound) (type : UInt16)
    (htype : type.toNat < nestedFlag) (hdata : Builds order data children size) (hsize : 4 + size < 2 ^ 16) :
    Builds order (pushNestedAttribute order bytes type data) (tree ++ [.nested type.toNat children])
      (bound + (size + 7)) := by
  have hle := hdata.length_le
  have hlength : 4 + data.length < 2 ^ 16 := by omega
  rw [NftClient.pushNestedAttribute, pushAttribute_eq bytes _ hlength, toNat_nested htype]
  have hencode : encodeAttribute order (type.toNat + nestedFlag) data =
      Attribute.encode order (.nested type.toNat children) := by
    rw [Attribute.encode, hdata.encoded]
  rw [hencode]
  rw [hdata.encoded] at hlength hle
  refine h.append ⟨htype, hlength, hdata.fits⟩ ?_
  have hlt := align4_lt (4 + (encodeAll order children).length)
  rw [Attribute.encode, length_encodeAttribute]
  omega

theorem pushStringAttribute {string : String} (h : Builds order bytes tree bound)
    (type : UInt16) (htype : type.toNat < nestedFlag) (hstring : (utf8 string).length ≤ size) (hsize : 4 + (size + 1) < 2 ^ 16) :
    Builds order (pushStringAttribute order bytes type string) (tree ++ [.leaf type.toNat (text string)])
      (bound + (size + 8)) := by
  have hlength : (text string).length ≤ size + 1 := by
    rw [text, List.length_append, List.length_singleton]
    omega
  exact h.pushAttribute type htype hlength hsize

theorem pushU32Attribute (h : Builds order bytes tree bound) (type : UInt16)
    (htype : type.toNat < nestedFlag) (number : UInt32) :
    Builds order (pushU32Attribute order bytes type number) (tree ++ [.leaf type.toNat (word number.toNat)])
      (bound + 11) := by
  have hlength : (u32ToBe number).val.length ≤ 4 := by simp
  exact h.pushAttribute type htype hlength (by decide)

theorem metaExpression (key : UInt32) : Builds order (metaExpression order key) (metaTree key.toNat) 22 :=
  (nil.pushU32Attribute _ (by decide) _).pushU32Attribute _ (by decide) _

/-- A single attribute with some bytes -/
theorem single (hvalue : value.length ≤ 16) :
    Builds order (NftClient.pushAttribute order [] 1 value) [.leaf 1 value] 23 :=
  nil.pushAttribute _ (by decide) hvalue (by decide)

theorem comparisonExpression (hvalue : value.length ≤ 16) :
    Builds order (comparisonExpression order value) (compareTree value) 52 := by
  have hnumbers : Builds order (NftClient.pushU32Attribute order
      (NftClient.pushU32Attribute order [] 1 nftRegister1) 2 nftCmpEq) [.leaf 1 (word 1), .leaf 2 (word 0)] 22 :=
    (nil.pushU32Attribute _ (by decide) _).pushU32Attribute _ (by decide) _
  exact hnumbers.pushNestedAttribute _ (by decide) (single hvalue) (by decide)

theorem ipv4DestinationExpression : Builds order (ipv4DestinationExpression order) destinationTree 44 :=
  (((nil.pushU32Attribute _ (by decide) _).pushU32Attribute _ (by decide) _).pushU32Attribute _ (by decide) _).pushU32Attribute _ (by decide) _

theorem prefixMaskExpression (mask : Block 4) :
    Builds order (prefixMaskExpression order mask) (maskTree mask.val) 93 := by
  have hmask : mask.val.length ≤ 16 := by simp
  have hzeros : (zeros 4).val.length ≤ 16 := by simp
  have hnumbers : Builds order (NftClient.pushU32Attribute order (NftClient.pushU32Attribute order
      (NftClient.pushU32Attribute order [] 1 nftRegister1) 2 nftRegister1) 3 4)
      [.leaf 1 (word 1), .leaf 2 (word 1), .leaf 3 (word 4)] 33 :=
    ((nil.pushU32Attribute _ (by decide) _).pushU32Attribute _ (by decide) _).pushU32Attribute _ (by decide) _
  exact (hnumbers.pushNestedAttribute _ (by decide) (single hmask) (by decide)).pushNestedAttribute _ (by decide) (single hzeros) (by decide)

theorem pushExpression (h : Builds order bytes tree bound) (name : String)
    (hdata : Builds order data children size) (hname : (utf8 name).length ≤ 7) (hsize : size ≤ 100) :
    Builds order (pushExpression order bytes name data) (tree ++ [expressionTree name children])
      (bound + (size + 29)) := by
  have hfits : 4 + size < 2 ^ 16 := by omega
  have hexpression : Builds order (NftClient.pushNestedAttribute order
      (NftClient.pushStringAttribute order [] 1 name) 2 data) [.leaf 1 (text name), .nested 2 children]
      (0 + (7 + 8) + (size + 7)) :=
    (nil.pushStringAttribute _ (by decide) hname (by decide)).pushNestedAttribute _ (by decide) hdata hfits
  exact (h.pushNestedAttribute _ (by decide) hexpression (by omega)).mono (by omega)

theorem natExpressions {projectInterfaceName : String} {route : GatewayRoute}
    (hproject : (utf8 projectInterfaceName).length ≤ 15) (hroute : (utf8 route.interfaceName).length ≤ 15) :
    Builds order (natExpressions order projectInterfaceName route) (natTree projectInterfaceName route) 600 := by
  have hname : ∀ {name : String}, (utf8 name).length ≤ 15 → (interfaceNameBytes name).length ≤ 16 := by
    intro name h
    rw [interfaceNameBytes, List.length_append, List.length_singleton]
    omega
  have hnetwork : route.subnetPrefix.network.octets.val.length ≤ 16 := by simp
  have hfirst := ((((@nil order).pushExpression "meta" (metaExpression nftMetaIifname) (by decide)
    (by decide)).pushExpression "cmp" (comparisonExpression (hname hproject)) (by decide)
    (by decide)).pushExpression "meta" (metaExpression nftMetaOifname) (by decide)
    (by decide)).pushExpression "cmp" (comparisonExpression (hname hroute)) (by decide) (by decide)
  have hpayload := hfirst.pushExpression "payload" ipv4DestinationExpression (by decide) (by decide)
  unfold NftClient.natExpressions natTree
  by_cases h : route.subnetPrefix.prefixLen < 32
  · simp only [if_pos h]
    have hmask := hpayload.pushExpression "bitwise" (prefixMaskExpression (netmask route.subnetPrefix).octets)
      (by decide) (by decide)
    have hcompare := hmask.pushExpression "cmp" (comparisonExpression hnetwork) (by decide) (by decide)
    exact (hcompare.pushExpression "masq" nil (by decide) (by decide)).mono (by decide)
  · simp only [if_neg h]
    have hcompare := hpayload.pushExpression "cmp" (comparisonExpression hnetwork) (by decide) (by decide)
    exact (hcompare.pushExpression "masq" nil (by decide) (by decide)).mono (by decide)

end Builds

theorem rawNetlinkMessage_encode (messageType flags : UInt16) (sequence : UInt32) (family : UInt8)
    (resourceId : UInt16) {attributes : Bytes} (haligned : attributes.length % 4 = 0)
    (hlength : attributes.length < 2 ^ 16) :
    rawNetlinkMessage order messageType flags sequence family resourceId attributes =
      Message.encode order ⟨messageType.toNat, flags.toNat, sequence.toNat, 0,
        [family, 0] ++ (u16ToBe resourceId).val ++ attributes⟩ := by
  have hpayload : ([family, 0] ++ (u16ToBe resourceId).val ++ attributes).length = 4 + attributes.length := by
    simp only [List.length_append, Block.length_val, List.length_cons, List.length_nil]
  have hpadding : padding (16 + (4 + attributes.length)) = [] := by
    have halign : align4 (16 + (4 + attributes.length)) = 16 + (4 + attributes.length) := by
      unfold align4
      omega
    rw [padding, halign, Nat.sub_self, List.replicate_zero]
  have hsmall : u32OrMax (netlinkHeaderLength + nfgenmsgLength + attributes.length) =
      16 + (4 + attributes.length) := by
    rw [u32OrMax_of_lt (by unfold netlinkHeaderLength nfgenmsgLength; omega)]
    unfold netlinkHeaderLength nfgenmsgLength
    omega
  unfold rawNetlinkMessage Message.encode Message.length
  dsimp only
  rw [hpayload, hpadding, hsmall]
  simp only [List.append_assoc, List.append_nil]

theorem toNat_combinedType (messageType : UInt8) :
    (nfnlSubsysNftables <<< 8 ||| messageType.toUInt16).toNat = 2560 + messageType.toNat := by
  have hor : (nfnlSubsysNftables <<< 8 ||| messageType.toUInt16).toNat = 2560 ||| messageType.toNat :=
    (UInt16.toNat_or _ _).trans (by rw [UInt8.toNat_toUInt16]; rfl)
  have hadd : 2560 + messageType.toNat = 2560 ||| messageType.toNat :=
    Nat.two_pow_add_eq_or_of_lt messageType.toNat_lt 10
  rw [hor, hadd]

/-- A request with some attributes is the batch of it. -/
theorem netlinkMessage_carries (messageType : UInt8) (extraFlags : UInt16) (sequence : UInt32) {bytes : Bytes}
    {tree : List Attribute} {bound : Nat} (h : Builds order bytes tree bound) (hbound : bound < 2 ^ 15) :
    Carries order (netlinkMessage order messageType extraFlags sequence bytes) messageType.toNat
      (nlmFRequest ||| nlmFAck ||| extraFlags).toNat sequence tree := by
  have hlength := h.length_le
  have haligned : bytes.length % 4 = 0 := by
    rw [h.encoded]
    exact encodeAll_aligned tree
  have hencoded : netlinkMessage order messageType extraFlags sequence bytes =
      (batch messageType.toNat (nlmFRequest ||| nlmFAck ||| extraFlags).toNat sequence
        (encodeAll order tree)).flatMap (Message.encode order) := by
    have hempty : ([] : Bytes).length % 4 = 0 := rfl
    have hresource : (u16ToBe nfnlSubsysNftables).val = [0, 10] := by decide
    have hnone : (u16ToBe 0).val = [0, 0] := by decide
    unfold netlinkMessage batch
    dsimp only
    rw [rawNetlinkMessage_encode _ _ _ _ _ hempty (by decide), rawNetlinkMessage_encode _ _ _ _ _ haligned (by omega),
      rawNetlinkMessage_encode _ _ _ _ _ hempty (by decide), toNat_combinedType, UInt32.toNat_add, ← h.encoded,
      hresource, hnone]
    simp only [List.flatMap_cons, List.flatMap_nil, List.append_nil, List.append_assoc]
    rfl
  have hsequence := sequence.toNat_lt
  have htype := messageType.toNat_lt
  have hflags := (nlmFRequest ||| nlmFAck ||| extraFlags).toNat_lt
  have hfit : ∀ message ∈ batch messageType.toNat (nlmFRequest ||| nlmFAck ||| extraFlags).toNat sequence
      (encodeAll order tree), message.Fits := by
    rw [h.encoded] at hlength
    intro message hmessage
    unfold batch at hmessage
    simp only [List.mem_cons, List.not_mem_nil, or_false] at hmessage
    obtain rfl | rfl | rfl := hmessage
    · exact ⟨by decide, by decide, by decide, by decide, by decide⟩
    · refine ⟨?_, ?_, hflags, hsequence, Nat.two_pow_pos 32⟩
      · simp only [Message.length, List.length_append, List.length_cons, List.length_nil]
        omega
      · show 2560 + messageType.toNat < 2 ^ 16
        omega
    · have hlast := Nat.mod_lt (sequence.toNat + 1) (Nat.two_pow_pos 32)
      refine ⟨?_, ?_, ?_, hlast, Nat.two_pow_pos 32⟩
      · show 20 < 2 ^ 32
        decide
      · show 17 < 2 ^ 16
        decide
      · show 1 < 2 ^ 16
        decide
  refine ⟨hencoded, hfit, h.fits, ?_, parse_encodeAll h.fits⟩
  rw [hencoded, messages_encode hfit]

theorem length_marker_le : nftOwnerMarker.length ≤ 17 := by decide

theorem tableName_builds {tableName : String} (h : (utf8 tableName).length ≤ 24) :
    Builds order (pushStringAttribute order [] 1 tableName) [.leaf 1 (text tableName)] 32 :=
  Builds.nil.pushStringAttribute 1 (by decide) h (by decide)

theorem createTable_carries (sequence : UInt32) {tableName : String} (h : (utf8 tableName).length ≤ 24) :
    Carries order (createTable order sequence tableName) 0 0x605 sequence (tableTree tableName) := by
  have hattributes := (@tableName_builds order _ h).pushAttribute 6 (by decide) length_marker_le (by decide)
  exact netlinkMessage_carries nftMsgNewtable _ sequence hattributes (by decide)

theorem createChain_carries (sequence : UInt32) {tableName : String} (h : (utf8 tableName).length ≤ 24) :
    Carries order (createChain order sequence tableName) 3 0x605 sequence (chainTree tableName) := by
  have hchain : (utf8 nftChainName).length ≤ 11 := by decide
  have hnat : (utf8 "nat").length ≤ 3 := by decide
  have hhook : Builds order (pushI32Attribute order (pushU32Attribute order [] 1 nfInetPostRouting) 2 nfIpPriNatSrc)
      [.leaf 1 (word 4), .leaf 2 (word 100)] 22 :=
    (Builds.nil.pushU32Attribute 1 (by decide) _).pushU32Attribute 2 (by decide) nfIpPriNatSrc.toUInt32
  have hnames := (@tableName_builds order _ h).pushStringAttribute 3
    (by decide) hchain (by decide)
  have hhooked := hnames.pushNestedAttribute 4 (by decide) hhook (by decide)
  have htyped := hhooked.pushStringAttribute 7 (by decide) hnat (by decide)
  have hattributes := htyped.pushAttribute 12 (by decide) length_marker_le (by decide)
  exact netlinkMessage_carries nftMsgNewchain _ sequence hattributes (by decide)

theorem createNatRule_carries (sequence : UInt32) {tableName projectInterfaceName : String} {route : GatewayRoute}
    (h : (utf8 tableName).length ≤ 24) (hproject : (utf8 projectInterfaceName).length ≤ 15)
    (hroute : (utf8 route.interfaceName).length ≤ 15) :
    Carries order (createNatRule order sequence tableName projectInterfaceName route) 6 0xc05 sequence
      (ruleTree tableName projectInterfaceName route) := by
  have hchain : (utf8 nftChainName).length ≤ 11 := by decide
  have hnames := (@tableName_builds order _ h).pushStringAttribute 2
    (by decide) hchain (by decide)
  have hrules := hnames.pushNestedAttribute 4 (by decide) (Builds.natExpressions hproject hroute) (by decide)
  have hattributes := hrules.pushAttribute 7 (by decide) length_marker_le (by decide)
  exact netlinkMessage_carries nftMsgNewrule _ sequence hattributes (by decide)

theorem deleteTable_carries (sequence : UInt32) {tableName : String} (h : (utf8 tableName).length ≤ 24) :
    Carries order (deleteTable order sequence tableName) 2 5 sequence (deletedTree tableName) :=
  netlinkMessage_carries nftMsgDeltable 0 sequence (tableName_builds h) (by decide)

theorem loadNumber_eq {response : Bytes} {offset count : Nat} (start : Nat)
    (h : start + offset + count ≤ response.length) :
    loadNumber order response (start + offset) count = some (number order (response.drop start) offset count) := by
  rw [loadNumber, load_eq h, Option.map_some, number, List.drop_drop]

theorem acknowledgement_cons (sequence : UInt32) (message : Message) (rest : List Message × Bool) :
    acknowledgement order sequence (message :: rest.1, rest.2) =
      if message.type = 2 ∧ message.sequence = sequence.toNat then errorOutcome order message
      else acknowledgement order sequence rest := by
  unfold acknowledgement
  rw [List.find?_cons]
  by_cases h : message.type = 2 ∧ message.sequence = sequence.toNat
  · rw [decide_eq_true h, if_pos h]
  · rw [decide_eq_false h, if_neg h]

theorem errorOutcome_read {bytes : Bytes} (h : 16 ≤ number order bytes 0 4)
    (hle : number order bytes 0 4 ≤ bytes.length) : errorOutcome order (Message.read order bytes) =
      if number order bytes 0 4 < 20 then .error (-1)
      else
        let error := signed32 (number order bytes 16 4)
        if error = 0 then .ok () else .error (saturatingNeg32 error) := by
  have hpayload : (Message.read order bytes).payload.length = number order bytes 0 4 - 16 := by
    rw [Message.read, List.length_drop, List.length_take]
    omega
  unfold errorOutcome
  rw [hpayload]
  by_cases hshort : number order bytes 0 4 < 20
  · rw [if_pos hshort, if_pos (by omega)]
  · have hnumber : number order (Message.read order bytes).payload 0 4 = number order bytes 16 4 := by
      rw [Message.read, number, number, List.drop_zero, List.drop_take, List.take_take, Nat.min_eq_left (by omega)]
      rfl
    rw [if_neg hshort, if_neg (by omega), hnumber]

/-- The loop decides as the messages from its offset on do. -/
theorem parseAckFrom_eq {response : Bytes} {sequence : UInt32} {fuel offset : Nat}
    (h : (response.drop offset).length < fuel) : parseAckFrom order response sequence fuel offset =
      some (acknowledgement order sequence (messagesFrom order fuel (response.drop offset))) := by
  induction fuel generalizing offset with
  | zero => omega
  | succ fuel ih =>
    rw [List.length_drop] at h
    rw [parseAckFrom, messagesFrom, List.length_drop]
    by_cases hheader : response.length - offset < 16
    · rw [if_neg (by unfold netlinkHeaderLength; omega), if_pos hheader]
      rfl
    · have hlength : loadNumber order response offset 4 = some (number order (response.drop offset) 0 4) :=
        @loadNumber_eq order response 0 4 offset (by omega)
      have htype : loadNumber order response (offset + 4) 2 = some (number order (response.drop offset) 4 2) :=
        loadNumber_eq offset (by omega)
      have hsequence : loadNumber order response (offset + 8) 4 = some (number order (response.drop offset) 8 4) :=
        loadNumber_eq offset (by omega)
      rw [if_pos (by unfold netlinkHeaderLength; omega), if_neg hheader, hlength, htype, hsequence]
      dsimp only [Option.bind_eq_bind, Option.bind_some]
      by_cases hmalformed : number order (response.drop offset) 0 4 < 16 ∨
          response.length - offset < number order (response.drop offset) 0 4
      · rw [if_pos (by unfold netlinkHeaderLength; omega), if_pos hmalformed]
        rfl
      · have hend : (response.drop offset).length = response.length - offset := List.length_drop
        have haligned := le_align4 (number order (response.drop offset) 0 4)
        have hnext := @ih (offset + align4 (number order (response.drop offset) 0 4)) (by
          rw [List.length_drop]
          omega)
        rw [← List.drop_drop] at hnext
        rw [if_neg (by unfold netlinkHeaderLength; omega), if_neg hmalformed, acknowledgement_cons,
          errorOutcome_read (by omega) (by omega), hnext]
        by_cases herror : number order (response.drop offset) 4 2 = nlmsgError.toNat ∧
            number order (response.drop offset) 8 4 = sequence.toNat
        · have hread : (Message.read order (response.drop offset)).type = 2 ∧
              (Message.read order (response.drop offset)).sequence = sequence.toNat := herror
          rw [if_pos herror, if_pos hread]
          by_cases hshort : number order (response.drop offset) 0 4 < netlinkHeaderLength + 4
          · rw [if_pos hshort, if_pos (by unfold netlinkHeaderLength at hshort; omega)]
          · have hlong : ¬number order (response.drop offset) 0 4 < 20 := hshort
            have hvalue : loadNumber order response (offset + netlinkHeaderLength) 4 =
                some (number order (response.drop offset) 16 4) :=
              @loadNumber_eq order response 16 4 offset (by omega)
            rw [if_neg hshort, if_neg hlong, hvalue]
            rfl
        · have hread : ¬((Message.read order (response.drop offset)).type = 2 ∧
              (Message.read order (response.drop offset)).sequence = sequence.toNat) := herror
          rw [if_neg herror, if_neg hread]

theorem parseAck_eq (response : Bytes) (sequence : UInt32) : parseAck order response sequence =
    some (acknowledgement order sequence (messages order response)) :=
  @parseAckFrom_eq order response sequence _ 0 (Nat.lt_succ_self _)

/-- What the agent writes for an interface name and a route that it accepted is read back as the batch and the
attributes it is meant to be, and a response is understood as its messages say. -/
theorem nftables_messages_agree (order : ByteOrder) (sequence : UInt32) {project : String} {route : GatewayRoute}
    (hproject : NetworkPlan.validInterfaceName project = true)
    (hroute : validInterfaceName route.interfaceName = true) :
    Carries order (createTable order sequence (tableName project)) 0 0x605 sequence (tableTree (tableName project)) ∧
      Carries order (createChain order sequence (tableName project)) 3 0x605 sequence
        (chainTree (tableName project)) ∧
      Carries order (createNatRule order sequence (tableName project) project route) 6 0xc05 sequence
        (ruleTree (tableName project) project route) ∧
      Carries order (deleteTable order sequence (tableName project)) 2 5 sequence
        (deletedTree (tableName project)) ∧
      ∀ (response : Bytes) (expected : UInt32), parseAck order response expected =
        some (acknowledgement order expected (messages order response)) := by
  have hname : (utf8 project).length ≤ 15 := by
    simp only [NetworkPlan.validInterfaceName, Bool.and_eq_true, decide_eq_true_eq] at hproject
    exact hproject.1.1.2
  have hinterface : (utf8 route.interfaceName).length ≤ 15 := by
    simp only [validInterfaceName, Bool.and_eq_true, decide_eq_true_eq] at hroute
    exact hroute.1.2
  have htable : (utf8 (tableName project)).length ≤ 24 := by
    have hstart : (utf8 "xs_nexus_").length = 9 := by decide
    rw [tableName, utf8_append, List.length_append, hstart]
    omega
  exact ⟨createTable_carries sequence htable, createChain_carries sequence htable,
    createNatRule_carries sequence htable hname hinterface, deleteTable_carries sequence htable, parseAck_eq⟩

/-- A route over an interface of the host -/
def sampleGatewayRoute : GatewayRoute where
  subnetPrefix := ⟨.new 192 168 20 0, 24, Ipv4Net.le_24⟩
  interfaceName := "eth0"
  mode := .nat

theorem nftables_messages_agree_sample :
    Carries .little (createNatRule .little 1 (tableName "xs-net0") "xs-net0" sampleGatewayRoute) 6 0xc05 1
      (ruleTree (tableName "xs-net0") "xs-net0" sampleGatewayRoute) :=
  (nftables_messages_agree .little 1 (by decide +kernel) (by decide +kernel)).2.2.1

end NftClient

end XsNexus

import XsNexus.LinuxNetwork
import XsNexus.Netlink
import XsNexus.SubnetRoutes

namespace XsNexus

open ByteCodec ByteMemory Netlink LinuxNetwork

namespace NftClient

def nftChainName : String := "postrouting"

def nftOwnerMarker : Bytes := utf8 "xs-nexus-agent-v1"

def netlinkHeaderLength : Nat := 16

def nfgenmsgLength : Nat := 4

def nlmsgError : UInt16 := 2

def nfnlMsgBatchBegin : UInt16 := 0x10

def nfnlMsgBatchEnd : UInt16 := 0x11

def nlmFRequest : UInt16 := 0x01

def nlmFAck : UInt16 := 0x04

def nlmFExcl : UInt16 := 0x200

def nlmFCreate : UInt16 := 0x400

def nlmFAppend : UInt16 := 0x800

def nlaFNested : UInt16 := 0x8000

def nfnlSubsysNftables : UInt16 := 10

def nfprotoIpv4 : UInt8 := 2

def nftMsgNewtable : UInt8 := 0

def nftMsgDeltable : UInt8 := 2

def nftMsgNewchain : UInt8 := 3

def nftMsgNewrule : UInt8 := 6

def nftRegister1 : UInt32 := 1

def nftMetaIifname : UInt32 := 6

def nftMetaOifname : UInt32 := 7

def nftCmpEq : UInt32 := 0

def nftPayloadNetworkHeader : UInt32 := 1

def ipv4DestinationOffset : UInt32 := 16

def nfInetPostRouting : UInt32 := 4

def nfIpPriNatSrc : Int32 := 100

def u16OrMax (length : Nat) : Nat := if length < 2 ^ 16 then length else 2 ^ 16 - 1

def u32OrMax (length : Nat) : Nat := if length < 2 ^ 32 then length else 2 ^ 32 - 1

section Attributes

variable (order : ByteOrder)

def pushAttribute (target : Bytes) (attributeType : UInt16) (value : Bytes) : Bytes :=
  let length := 4 + value.length
  let alignedLength := align4 length
  target ++ neBytes order 2 (u16OrMax length) ++ neBytes order 2 attributeType.toNat ++ value ++
    List.replicate (alignedLength - length) 0

def pushNestedAttribute (target : Bytes) (attributeType : UInt16) (value : Bytes) : Bytes :=
  pushAttribute order target (attributeType ||| nlaFNested) value

def pushStringAttribute (target : Bytes) (attributeType : UInt16) (value : String) : Bytes :=
  pushAttribute order target attributeType (utf8 value ++ [0])

def pushU32Attribute (target : Bytes) (attributeType : UInt16) (value : UInt32) : Bytes :=
  pushAttribute order target attributeType (u32ToBe value).val

def pushI32Attribute (target : Bytes) (attributeType : UInt16) (value : Int32) : Bytes :=
  pushAttribute order target attributeType (u32ToBe value.toUInt32).val

def interfaceNameBytes (interfaceName : String) : Bytes := utf8 interfaceName ++ [0]

def pushExpression (target : Bytes) (name : String) (data : Bytes) : Bytes :=
  let expression := pushStringAttribute order [] 1 name
  let expression := pushNestedAttribute order expression 2 data
  pushNestedAttribute order target 1 expression

def metaExpression (key : UInt32) : Bytes :=
  let attributes := pushU32Attribute order [] 1 nftRegister1
  pushU32Attribute order attributes 2 key

def comparisonExpression (value : Bytes) : Bytes :=
  let data := pushAttribute order [] 1 value
  let attributes := pushU32Attribute order [] 1 nftRegister1
  let attributes := pushU32Attribute order attributes 2 nftCmpEq
  pushNestedAttribute order attributes 3 data

def ipv4DestinationExpression : Bytes :=
  let attributes := pushU32Attribute order [] 1 nftRegister1
  let attributes := pushU32Attribute order attributes 2 nftPayloadNetworkHeader
  let attributes := pushU32Attribute order attributes 3 ipv4DestinationOffset
  pushU32Attribute order attributes 4 4

def prefixMaskExpression (mask : Block 4) : Bytes :=
  let maskData := pushAttribute order [] 1 mask.val
  let xorData := pushAttribute order [] 1 (zeros 4).val
  let attributes := pushU32Attribute order [] 1 nftRegister1
  let attributes := pushU32Attribute order attributes 2 nftRegister1
  let attributes := pushU32Attribute order attributes 3 4
  let attributes := pushNestedAttribute order attributes 4 maskData
  pushNestedAttribute order attributes 5 xorData

end Attributes

section Messages

variable (order : ByteOrder)

def rawNetlinkMessage (messageType flags : UInt16) (sequence : UInt32) (family : UInt8) (resourceId : UInt16)
    (attributes : Bytes) : Bytes :=
  let length := netlinkHeaderLength + nfgenmsgLength + attributes.length
  neBytes order 4 (u32OrMax length) ++ neBytes order 2 messageType.toNat ++ neBytes order 2 flags.toNat ++
    neBytes order 4 sequence.toNat ++ neBytes order 4 0 ++ [family, 0] ++ (u16ToBe resourceId).val ++ attributes

def netlinkMessage (messageType : UInt8) (extraFlags : UInt16) (sequence : UInt32) (attributes : Bytes) :
    Bytes :=
  let message := rawNetlinkMessage order nfnlMsgBatchBegin (nlmFRequest ||| nlmFAck) 0 0 nfnlSubsysNftables []
  let combinedType := nfnlSubsysNftables <<< 8 ||| messageType.toUInt16
  let message := message ++ rawNetlinkMessage order combinedType (nlmFRequest ||| nlmFAck ||| extraFlags) sequence
    nfprotoIpv4 0 attributes
  message ++ rawNetlinkMessage order nfnlMsgBatchEnd nlmFRequest (sequence + 1) 0 nfnlSubsysNftables []

/-- The bytes that a request with this sequence number sends -/
def createTable (sequence : UInt32) (tableName : String) : Bytes :=
  let attributes := pushStringAttribute order [] 1 tableName
  let attributes := pushAttribute order attributes 6 nftOwnerMarker
  netlinkMessage order nftMsgNewtable (nlmFCreate ||| nlmFExcl) sequence attributes

def createChain (sequence : UInt32) (tableName : String) : Bytes :=
  let hook := pushU32Attribute order [] 1 nfInetPostRouting
  let hook := pushI32Attribute order hook 2 nfIpPriNatSrc
  let attributes := pushStringAttribute order [] 1 tableName
  let attributes := pushStringAttribute order attributes 3 nftChainName
  let attributes := pushNestedAttribute order attributes 4 hook
  let attributes := pushStringAttribute order attributes 7 "nat"
  let attributes := pushAttribute order attributes 12 nftOwnerMarker
  netlinkMessage order nftMsgNewchain (nlmFCreate ||| nlmFExcl) sequence attributes

def netmask (net : Ipv4Net) : Ipv4Addr := ⟨~~~net.hostmask⟩

def natExpressions (projectInterfaceName : String) (route : GatewayRoute) : Bytes :=
  let expressions := pushExpression order [] "meta" (metaExpression order nftMetaIifname)
  let expressions := pushExpression order expressions "cmp"
    (comparisonExpression order (interfaceNameBytes projectInterfaceName))
  let expressions := pushExpression order expressions "meta" (metaExpression order nftMetaOifname)
  let expressions := pushExpression order expressions "cmp"
    (comparisonExpression order (interfaceNameBytes route.interfaceName))
  let expressions := pushExpression order expressions "payload" (ipv4DestinationExpression order)
  let expressions :=
    if route.subnetPrefix.prefixLen < 32 then
      pushExpression order expressions "bitwise" (prefixMaskExpression order (netmask route.subnetPrefix).octets)
    else expressions
  let expressions := pushExpression order expressions "cmp"
    (comparisonExpression order route.subnetPrefix.network.octets.val)
  pushExpression order expressions "masq" []

def createNatRule (sequence : UInt32) (tableName projectInterfaceName : String) (route : GatewayRoute) : Bytes :=
  let expressions := natExpressions order projectInterfaceName route
  let attributes := pushStringAttribute order [] 1 tableName
  let attributes := pushStringAttribute order attributes 2 nftChainName
  let attributes := pushNestedAttribute order attributes 4 expressions
  let attributes := pushAttribute order attributes 7 nftOwnerMarker
  netlinkMessage order nftMsgNewrule (nlmFCreate ||| nlmFAppend) sequence attributes

def deleteTable (sequence : UInt32) (tableName : String) : Bytes :=
  let attributes := pushStringAttribute order [] 1 tableName
  netlinkMessage order nftMsgDeltable 0 sequence attributes

def ackNotFound : Int := -2 ^ 31

/-- A four-byte number read as a signed one -/
def signed32 (value : Nat) : Int := if value < 2 ^ 31 then value else value - 2 ^ 32

def saturatingNeg32 (value : Int) : Int := min (-value) (2 ^ 31 - 1)

/-- A number at an offset, where an access beyond the bytes ends the program -/
def loadNumber (bytes : Bytes) (offset count : Nat) : Option Nat :=
  (load bytes offset count).map (neNat order)

/-- The loop from an offset. It is `none` where the program would stop at an access beyond the bytes, or would
use up the fuel. The conversions of the slices to arrays cannot fail, as the slices have the arrays' lengths. -/
def parseAckFrom (response : Bytes) (sequence : UInt32) : Nat → Nat → Option (Except Int Unit)
  | 0, _ => none
  | fuel + 1, offset =>
    if offset + netlinkHeaderLength ≤ response.length then
      match loadNumber order response offset 4 with
      | none => some (.error (-1))
      | some length =>
        if length < netlinkHeaderLength ∨ offset + length > response.length then some (.error (-1))
        else do
          let messageType ← loadNumber order response (offset + 4) 2
          let messageSequence ← loadNumber order response (offset + 8) 4
          if messageType = nlmsgError.toNat ∧ messageSequence = sequence.toNat then
            if length < netlinkHeaderLength + 4 then some (.error (-1))
            else do
              let value ← loadNumber order response (offset + netlinkHeaderLength) 4
              let error := signed32 value
              some (if error = 0 then .ok () else .error (saturatingNeg32 error))
          else parseAckFrom response sequence fuel (offset + align4 length)
    else some (.error ackNotFound)

def parseAck (response : Bytes) (sequence : UInt32) : Option (Except Int Unit) :=
  parseAckFrom order response sequence (response.length + 1) 0

end Messages

end NftClient

end XsNexus

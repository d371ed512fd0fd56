import XsNexus.ByteCodec

namespace XsNexus

open ByteCodec

structure Ipv4Addr where
  bits : BitVec 32
deriving DecidableEq

namespace Ipv4Addr

def new (a b c d : UInt8) : Ipv4Addr := ⟨BitVec.ofNat 32 (beNat [a, b, c, d])⟩

def fromOctets (octets : Block 4) : Ipv4Addr := ⟨BitVec.ofNat 32 (beNat octets.val)⟩

def octets (a : Ipv4Addr) : Block 4 := ⟨beBytes 4 a.bits.toNat, by simp⟩

def UNSPECIFIED : Ipv4Addr := ⟨0⟩

def BROADCAST : Ipv4Addr := ⟨BitVec.allOnes 32⟩

def firstOctet (a : Ipv4Addr) : Nat := a.bits.toNat / 2 ^ 24

def isUnspecified (a : Ipv4Addr) : Bool := a == UNSPECIFIED

def isLoopback (a : Ipv4Addr) : Bool := a.firstOctet == 127

def isMulticast (a : Ipv4Addr) : Bool := decide (224 ≤ a.firstOctet ∧ a.firstOctet ≤ 239)

end Ipv4Addr

structure Ipv6Addr where
  bits : BitVec 128
deriving DecidableEq

namespace Ipv6Addr

def UNSPECIFIED : Ipv6Addr := ⟨0⟩

/-- The leading 16 bits. -/
def firstSegment (a : Ipv6Addr) : BitVec 16 := BitVec.ofNat 16 (a.bits.toNat / 2 ^ 112)

def isUnspecified (a : Ipv6Addr) : Bool := a == UNSPECIFIED

def isLoopback (a : Ipv6Addr) : Bool := a == ⟨1⟩

def isMulticast (a : Ipv6Addr) : Bool := a.firstSegment &&& 0xff00 == 0xff00

def isUniqueLocal (a : Ipv6Addr) : Bool := a.firstSegment &&& 0xfe00 == 0xfc00

def isUnicastLinkLocal (a : Ipv6Addr) : Bool := a.firstSegment &&& 0xffc0 == 0xfe80

/-- `::ffff:a.b.c.d` -/
def toIpv4Mapped (a : Ipv6Addr) : Option Ipv4Addr :=
  if a.bits.toNat / 2 ^ 32 = 0xffff then some ⟨BitVec.ofNat 32 a.bits.toNat⟩ else none

end Ipv6Addr

structure SocketAddrV4 where
  ip : Ipv4Addr
  port : UInt16
deriving DecidableEq

structure SocketAddrV6 where
  ip : Ipv6Addr
  port : UInt16
  flowinfo : UInt32
  scopeId : UInt32
deriving DecidableEq

inductive SocketAddr
  | v4 (endpoint : SocketAddrV4)
  | v6 (endpoint : SocketAddrV6)
deriving DecidableEq

inductive IpAddr
  | v4 (address : Ipv4Addr)
  | v6 (address : Ipv6Addr)
deriving DecidableEq

def SocketAddr.ip : SocketAddr → IpAddr
  | v4 endpoint => .v4 endpoint.ip
  | v6 endpoint => .v6 endpoint.ip

def SocketAddr.port : SocketAddr → UInt16
  | v4 endpoint => endpoint.port
  | v6 endpoint => endpoint.port

def normalizeEndpoint (endpoint : SocketAddr) : SocketAddr :=
  match endpoint with
  | .v6 e =>
    match e.ip.toIpv4Mapped with
    | none => .v6 e
    | some address => .v4 ⟨address, e.port⟩
  | .v4 _ => endpoint

def sampleEndpoint : SocketAddr := .v4 ⟨.new 192 0 2 1, 4000⟩

end XsNexus

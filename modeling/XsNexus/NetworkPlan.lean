import XsNexus.NodeState

namespace XsNexus

open ByteCodec

structure NetworkPlan where
  interfaceName : String
  mtu : UInt16
  virtualIp : Ipv4Addr
  addressPool : Ipv4Net
deriving DecidableEq

namespace NetworkPlan

def validInterfaceName (name : String) : Bool :=
  decide (3 ≤ (utf8 name).length ∧ (utf8 name).length ≤ 15) && (utf8 "xs").isPrefixOf (utf8 name) &&
    (utf8 name).all fun byte => isAsciiLowercase byte || isAsciiDigit byte || decide (byte = 45)

def validate (plan : NetworkPlan) : Except AgentError Unit :=
  if !validInterfaceName plan.interfaceName ∨ ¬(1280 ≤ plan.mtu ∧ plan.mtu ≤ 1500) ∨
      ¬(8 ≤ plan.addressPool.prefixLen ∧ plan.addressPool.prefixLen ≤ 30) ∨
      !plan.addressPool.contains plan.virtualIp ∨ plan.virtualIp = plan.addressPool.network ∨
      plan.virtualIp = plan.addressPool.broadcast then
    .error .network
  else .ok ()

def new (interfaceName : String) (mtu : UInt16) (virtualIp : Ipv4Addr) (addressPool : Ipv4Net) :
    Except AgentError NetworkPlan := do
  let plan : NetworkPlan := ⟨interfaceName, mtu, virtualIp, addressPool⟩
  plan.validate
  .ok plan

end NetworkPlan

end XsNexus

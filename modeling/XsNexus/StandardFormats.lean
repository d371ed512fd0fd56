import XsNexus.Base64
import XsNexus.NodeState

namespace XsNexus

open ByteCodec MachineWords

/-- An address, a slash and a decimal prefix length. -/
def parseIpv4Net (text : String) : Option Ipv4Net :=
  match (utf8 text).splitOn (47 : UInt8) with
  | [address, length] => do
    let addr ← parseIpv4AddrBytes address
    let prefixLen ← readNumber length (some 2) false 33
    if h : prefixLen ≤ 32 then some ⟨addr, prefixLen, h⟩ else none
  | _ => none

def Ipv4Net.text (net : Ipv4Net) : String := net.addr.text ++ "/" ++ decimalText net.prefixLen

/-- The formats of the other crates as they are documented, with the payloads a run needs. -/
def standardFormats (configurationPayload : Bytes → Option ConfigurationPayload) : Formats where
  base64Encode := Base64.urlEncode
  base64Decode := Base64.urlDecode
  ipv4Net := parseIpv4Net
  ipv4NetText := Ipv4Net.text
  configurationPayload := configurationPayload

section Standard

variable (payloads : Bytes → Option ConfigurationPayload)

theorem decodeBounded_urlEncode {data : Bytes} {maximum : Nat} (hdata : data ≠ [])
    (hle : data.length ≤ maximum) (hmax : 2 * maximum + 16 ≤ usizeMax) :
    decodeBounded (standardFormats payloads) (Base64.urlEncode data) maximum = .ok data := by
  have hlength := Base64.length_sextets_le data
  have hsextets : Base64.sextets data ≠ [] := fun h => hdata (Base64.sextets_eq_nil.mp h)
  have hguard : ¬(utf8 (Base64.urlEncode data) = [] ∨
      (utf8 (Base64.urlEncode data)).length > usizeSaturatingAdd (usizeSaturatingMul maximum 2) 16) := by
    unfold utf8 usizeSaturatingAdd usizeSaturatingMul
    rw [Base64.utf8_urlEncode, List.map_eq_nil_iff, List.length_map]
    rintro (hnil | hlong)
    · exact hsextets hnil
    · omega
  unfold decodeBounded
  rw [if_neg hguard]
  have hdecode : (standardFormats payloads).base64Decode (Base64.urlEncode data) = some data :=
    Base64.urlDecode_urlEncode data
  rw [hdecode]
  show (if data.length > maximum ∨ Base64.urlEncode data ≠ Base64.urlEncode data then
    Except.error AgentError.controllerTrust else Except.ok data) = _
  rw [if_neg]
  simp only [ne_eq, not_true_eq_false, or_false, not_lt]
  exact hle

theorem decodeFixed_urlEncode {n : Nat} (block : Block n) (hn : 0 < n)
    (hmax : 2 * n + 16 ≤ usizeMax) :
    decodeFixed (standardFormats payloads) n (Base64.urlEncode block.val) = .ok block := by
  have hne : block.val ≠ [] := by
    intro h
    have hlen := block.property
    rw [h] at hlen
    simp at hlen
    omega
  unfold decodeFixed
  simp [decodeBounded_urlEncode payloads hne (Nat.le_of_eq block.property) hmax, bind, Except.bind,
    array_of_length block.property]

end Standard

example : decodeFixed (standardFormats fun _ => none) 3 "AQL_" = .ok ⟨[1, 2, 255], rfl⟩ := by
  decide +kernel

example : decodeFixed (standardFormats fun _ => none) 1 "AR" = .error .controllerTrust := by
  decide +kernel

end XsNexus

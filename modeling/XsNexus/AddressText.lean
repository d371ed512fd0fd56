import XsNexus.StandardFormats

namespace XsNexus

open ByteCodec

theorem utf8_append (a b : String) : utf8 (a ++ b) = utf8 a ++ utf8 b := by
  unfold utf8
  rw [String.toUTF8_eq_toByteArray, String.toByteArray_append]
  simp

/-- A byte in decimal is read back, and has neither a dot nor a slash. -/
theorem decimalText_octet : ∀ n < 256,
    readNumber (utf8 (decimalText n)) (some 3) false 256 = some n ∧
      (utf8 (decimalText n)).length ≤ 3 ∧ 46 ∉ utf8 (decimalText n) ∧ 47 ∉ utf8 (decimalText n) := by
  decide +kernel

theorem decimalText_prefixLen : ∀ n < 33,
    readNumber (utf8 (decimalText n)) (some 2) false 33 = some n ∧ 47 ∉ utf8 (decimalText n) := by
  decide +kernel

theorem octets_new (a : Ipv4Addr) : ∃ b c d e, a.octets.val = [b, c, d, e] ∧ a = .new b c d e := by
  match h : a.octets.val, a.octets.property with
  | [b, c, d, e], _ =>
    refine ⟨b, c, d, e, rfl, ?_⟩
    unfold Ipv4Addr.new
    rw [← h]
    unfold Ipv4Addr.octets
    rw [beNat_beBytes]
    have hlt := a.bits.isLt
    show a = ⟨BitVec.ofNat 32 (a.bits.toNat % 256 ^ 4)⟩
    rw [Nat.mod_eq_of_lt (by omega), BitVec.ofNat_toNat, BitVec.setWidth_eq]

theorem utf8_text (a : Ipv4Addr) : utf8 a.text =
    [(46 : UInt8)].intercalate (a.octets.val.map fun octet => utf8 (decimalText octet.toNat)) := by
  obtain ⟨b, c, d, e, hoctets, _⟩ := octets_new a
  have hdot : utf8 "." = [46] := by decide +kernel
  unfold Ipv4Addr.text
  rw [hoctets]
  show utf8 (decimalText b.toNat ++ "." ++ decimalText c.toNat ++ "." ++ decimalText d.toNat ++ "." ++
    decimalText e.toNat) = _
  simp [utf8_append, hdot, List.intercalate, List.intersperse]

/-- What `Ipv4Addr::to_string` writes is read back. -/
theorem parseIpv4AddrBytes_text (a : Ipv4Addr) :
    parseIpv4AddrBytes (utf8 a.text) = some a ∧ 47 ∉ utf8 a.text := by
  obtain ⟨b, c, d, e, hoctets, hnew⟩ := octets_new a
  obtain ⟨hb, hbl, hbdot, hbslash⟩ := decimalText_octet b.toNat b.toNat_lt
  obtain ⟨hc, hcl, hcdot, hcslash⟩ := decimalText_octet c.toNat c.toNat_lt
  obtain ⟨hd, hdl, hddot, hdslash⟩ := decimalText_octet d.toNat d.toNat_lt
  obtain ⟨he, hel, hedot, heslash⟩ := decimalText_octet e.toNat e.toNat_lt
  have htext := utf8_text a
  rw [hoctets] at htext
  have hsplit : (utf8 a.text).splitOn (46 : UInt8) = [utf8 (decimalText b.toNat),
      utf8 (decimalText c.toNat), utf8 (decimalText d.toNat), utf8 (decimalText e.toNat)] := by
    rw [htext]
    refine List.splitOn_intercalate _ ?_ (by simp)
    intro part hpart
    simp only [List.map_cons, List.map_nil, List.mem_cons, List.not_mem_nil, or_false] at hpart
    rcases hpart with rfl | rfl | rfl | rfl
    · exact hbdot
    · exact hcdot
    · exact hddot
    · exact hedot
  have hlength : (utf8 a.text).length ≤ 15 := by
    rw [htext]
    simp only [List.map_cons, List.map_nil, List.intercalate, List.intersperse, List.flatten_cons,
      List.flatten_nil, List.length_append, List.length_cons, List.length_nil]
    omega
  refine ⟨?_, ?_⟩
  · unfold parseIpv4AddrBytes
    rw [if_neg (by omega), hsplit]
    simp only [hb, hc, hd, he, Option.map_some, UInt8.ofNat_toNat, Option.bind_eq_bind,
      Option.bind_some]
    rw [← hnew]
  · rw [htext]
    simp [List.intercalate, List.intersperse, hbslash, hcslash, hdslash, heslash]

@[simp] theorem parseIpv4Addr_text (a : Ipv4Addr) : parseIpv4Addr a.text = some a :=
  (parseIpv4AddrBytes_text a).1

@[simp] theorem parseIpv4Net_text (net : Ipv4Net) : parseIpv4Net net.text = some net := by
  obtain ⟨haddr, haddrSlash⟩ := parseIpv4AddrBytes_text net.addr
  obtain ⟨hlen, hlenSlash⟩ :=
    decimalText_prefixLen net.prefixLen (by have := net.prefixLen_le; omega)
  have hslash : utf8 "/" = [47] := by decide +kernel
  have htext : utf8 net.text =
      [(47 : UInt8)].intercalate [utf8 net.addr.text, utf8 (decimalText net.prefixLen)] := by
    unfold Ipv4Net.text
    rw [utf8_append, utf8_append, hslash]
    simp [List.intercalate, List.intersperse]
  have hsplit : (utf8 net.text).splitOn (47 : UInt8) =
      [utf8 net.addr.text, utf8 (decimalText net.prefixLen)] := by
    rw [htext]
    refine List.splitOn_intercalate _ ?_ (by simp)
    intro part hpart
    simp only [List.mem_cons, List.not_mem_nil, or_false] at hpart
    rcases hpart with rfl | rfl
    · exact haddrSlash
    · exact hlenSlash
  unfold parseIpv4Net
  rw [hsplit]
  simp only [haddr, hlen, Option.bind_eq_bind, Option.bind_some]
  exact dif_pos net.prefixLen_le

end XsNexus

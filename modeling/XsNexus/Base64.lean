import XsNexus.ByteCodec

namespace Base64

open ByteCodec

/-- The groups of six bits of a byte string, the last one filled up with zeros. -/
def sextets : Bytes → List Nat
  | a :: b :: c :: rest =>
    [a.toNat / 4, a.toNat % 4 * 16 + b.toNat / 16, b.toNat % 16 * 4 + c.toNat / 64,
      c.toNat % 64] ++ sextets rest
  | [a, b] => [a.toNat / 4, a.toNat % 4 * 16 + b.toNat / 16, b.toNat % 16 * 4]
  | [a] => [a.toNat / 4, a.toNat % 4 * 16]
  | [] => []

/-- The bytes of groups of six bits; what was filled up has to be zero. -/
def bytes : List Nat → Option Bytes
  | a :: b :: c :: d :: rest => do
    some (UInt8.ofNat (a * 4 + b / 16) :: UInt8.ofNat (b % 16 * 16 + c / 4) ::
      UInt8.ofNat (c % 4 * 64 + d) :: (← bytes rest))
  | [a, b, c] =>
    if c % 4 ≠ 0 then none
    else some [UInt8.ofNat (a * 4 + b / 16), UInt8.ofNat (b % 16 * 16 + c / 4)]
  | [a, b] => if b % 16 ≠ 0 then none else some [UInt8.ofNat (a * 4 + b / 16)]
  | [_] => none
  | [] => some []

theorem sextets_lt (data : Bytes) : ∀ n ∈ sextets data, n < 64 := by
  induction data using sextets.induct with
  | case1 a b c rest ih =>
    have ha := a.toNat_lt
    have hb := b.toNat_lt
    have hc := c.toNat_lt
    simp only [sextets, List.cons_append, List.nil_append, List.forall_mem_cons]
    exact ⟨by omega, by omega, by omega, by omega, ih⟩
  | case2 a b =>
    have ha := a.toNat_lt
    have hb := b.toNat_lt
    simp only [sextets, List.forall_mem_cons]
    exact ⟨by omega, by omega, by omega, by simp⟩
  | case3 a =>
    have ha := a.toNat_lt
    simp only [sextets, List.forall_mem_cons]
    exact ⟨by omega, by omega, by simp⟩
  | case4 => simp [sextets]

theorem ofNat_eq {a : UInt8} {n : Nat} (h : n = a.toNat) : UInt8.ofNat n = a := by
  rw [h]
  exact UInt8.ofNat_toNat

theorem bytes_sextets (data : Bytes) : bytes (sextets data) = some data := by
  induction data using sextets.induct with
  | case1 a b c rest ih =>
    have hb := b.toNat_lt
    have hc := c.toNat_lt
    rw [sextets, List.cons_append, List.cons_append, List.cons_append, List.cons_append,
      List.nil_append, bytes, ih]
    show some _ = _
    rw [ofNat_eq (a := a) (by omega), ofNat_eq (a := b) (by omega), ofNat_eq (a := c) (by omega)]
  | case2 a b =>
    have hb := b.toNat_lt
    rw [sextets, bytes, if_neg (by omega), ofNat_eq (a := a) (by omega),
      ofNat_eq (a := b) (by omega)]
  | case3 a =>
    rw [sextets, bytes, if_neg (by omega), ofNat_eq (a := a) (by omega)]
  | case4 => rfl

theorem length_sextets_le (data : Bytes) : (sextets data).length ≤ 2 * data.length := by
  induction data using sextets.induct with
  | case1 a b c rest ih =>
    simp only [sextets, List.length_append, List.length_cons, List.length_nil]
    omega
  | case2 => simp [sextets]
  | case3 => simp [sextets]
  | case4 => simp [sextets]

theorem sextets_eq_nil {data : Bytes} : sextets data = [] ↔ data = [] := by
  cases data using sextets.induct with
  | case1 => simp [sextets]
  | case2 => simp [sextets]
  | case3 => simp [sextets]
  | case4 => simp [sextets]

/-- The code of a group in the URL-safe alphabet. -/
def urlCode (n : Nat) : Nat :=
  if n < 26 then n + 65
  else if n < 52 then n + 71
  else if n < 62 then n - 4
  else if n = 62 then 45
  else 95

def urlValue (b : UInt8) : Option Nat :=
  let n := b.toNat
  if 65 ≤ n ∧ n ≤ 90 then some (n - 65)
  else if 97 ≤ n ∧ n ≤ 122 then some (n - 71)
  else if 48 ≤ n ∧ n ≤ 57 then some (n + 4)
  else if n = 45 then some 62
  else if n = 95 then some 63
  else none

theorem urlValue_urlCode {n : Nat} (h : n < 64) : urlValue (UInt8.ofNat (urlCode n)) = some n := by
  have hall : ∀ n < 64, urlValue (UInt8.ofNat (urlCode n)) = some n := by decide
  exact hall n h

theorem urlCode_lt (n : Nat) : urlCode n < 128 := by
  unfold urlCode
  split
  · omega
  · split
    · omega
    · split
      · omega
      · split <;> omega

/-- The URL-safe alphabet without padding. -/
def urlEncode (data : Bytes) : String :=
  String.ofList ((sextets data).map fun n => Char.ofNat (urlCode n))

def urlDecode (text : String) : Option Bytes := do
  bytes (← text.toUTF8.data.toList.mapM urlValue)

theorem utf8EncodeChar_ofNat {n : Nat} (h : n < 128) :
    String.utf8EncodeChar (Char.ofNat n) = [UInt8.ofNat n] := by
  have hall : ∀ n < 128, String.utf8EncodeChar (Char.ofNat n) = [UInt8.ofNat n] := by decide
  exact hall n h

theorem utf8_ofList_ascii {codes : List Nat} (h : ∀ n ∈ codes, n < 128) :
    (String.ofList (codes.map Char.ofNat)).toUTF8.data.toList = codes.map UInt8.ofNat := by
  show (String.ofList (codes.map Char.ofNat)).toByteArray.data.toList = _
  rw [String.toByteArray_ofList]
  induction codes with
  | nil => simp
  | cons n codes ih =>
    obtain ⟨hn, hrest⟩ := List.forall_mem_cons.mp h
    rw [List.map_cons, List.map_cons, List.utf8Encode_cons, ByteArray.data_append,
      Array.toList_append, ih hrest, List.utf8Encode_singleton, utf8EncodeChar_ofNat hn]
    simp

theorem utf8_urlEncode (data : Bytes) :
    (urlEncode data).toUTF8.data.toList = (sextets data).map fun n => UInt8.ofNat (urlCode n) := by
  have hascii := @utf8_ofList_ascii ((sextets data).map urlCode) (by
    intro n hn
    obtain ⟨m, _, rfl⟩ := List.mem_map.mp hn
    exact urlCode_lt m)
  rw [List.map_map, List.map_map] at hascii
  exact hascii

theorem urlDecode_urlEncode (data : Bytes) : urlDecode (urlEncode data) = some data := by
  have hvalues : ∀ l : List Nat, (∀ n ∈ l, n < 64) →
      (l.map fun n => UInt8.ofNat (urlCode n)).mapM urlValue = some l := by
    intro l hl
    induction l with
    | nil => rfl
    | cons n l ih =>
      obtain ⟨hn, hrest⟩ := List.forall_mem_cons.mp hl
      rw [List.map_cons, List.mapM_cons, urlValue_urlCode hn, ih hrest]
      rfl
  unfold urlDecode
  rw [utf8_urlEncode, hvalues _ (sextets_lt data)]
  exact bytes_sextets data

end Base64

import XsNexus.Address

namespace XsNexus

open ByteCodec

def utf8 (text : String) : Bytes := text.toUTF8.data.toList

def isAsciiDigit (b : UInt8) : Bool := decide (48 ≤ b ∧ b ≤ 57)

def isAsciiLowercase (b : UInt8) : Bool := decide (97 ≤ b ∧ b ≤ 122)

def isAsciiUppercase (b : UInt8) : Bool := decide (65 ≤ b ∧ b ≤ 90)

def isAsciiAlphanumeric (b : UInt8) : Bool :=
  isAsciiDigit b || isAsciiLowercase b || isAsciiUppercase b

/-- `matches!(byte, b'.' | b'_' | b'-')` -/
def isNamePunctuation (b : UInt8) : Bool := b ∈ utf8 "._-"

/-- Strings are ordered by their bytes. -/
def strLt (a b : String) : Prop := utf8 a < utf8 b

instance (a b : String) : Decidable (strLt a b) := inferInstanceAs (Decidable (_ < _))

theorem fromUTF8_utf8 (text : String) : String.fromUTF8? ⟨(utf8 text).toArray⟩ = some text := by
  have hbytes : (⟨(utf8 text).toArray⟩ : ByteArray) = text.toUTF8 := by
    unfold utf8
    rw [Array.toArray_toList]
  unfold String.fromUTF8?
  rw [hbytes, String.toUTF8_eq_toByteArray, dif_pos text.isValidUTF8]
  rfl

theorem utf8_injective {a b : String} (h : utf8 a = utf8 b) : a = b := by
  have ha := fromUTF8_utf8 a
  rw [h, fromUTF8_utf8 b] at ha
  exact (Option.some.inj ha).symm

instance byteLt_trans : Trans (fun a b : UInt8 => a < b) (· < ·) (· < ·) := ⟨UInt8.lt_trans⟩

instance byteLt_irrefl : Std.Irrefl (fun a b : UInt8 => a < b) := ⟨UInt8.lt_irrefl⟩

instance byteLt_asymm : Std.Asymm (fun a b : UInt8 => a < b) := ⟨fun _ _ => UInt8.lt_asymm⟩

instance byteLt_trichotomous : Std.Trichotomous (fun a b : UInt8 => a < b) :=
  ⟨fun _ _ hab hba => UInt8.le_antisymm (UInt8.not_lt.mp hba) (UInt8.not_lt.mp hab)⟩

theorem strLt_irrefl (a : String) : ¬strLt a a := List.lt_irrefl (utf8 a)

theorem strLt_trans {a b c : String} (hab : strLt a b) (hbc : strLt b c) : strLt a c :=
  List.lt_trans hab hbc

theorem eq_of_not_strLt {a b : String} (hab : ¬strLt a b) (hba : ¬strLt b a) : a = b :=
  utf8_injective (List.le_antisymm hba hab)

def decimalDigit (b : UInt8) : Option Nat := if isAsciiDigit b then some (b.toNat - 48) else none

/-- `read_number` of the standard library, on a text it has to use up. -/
def readNumber (text : Bytes) (maxDigits : Option Nat) (allowZeroPrefix : Bool) (limit : Nat) :
    Option Nat := do
  let digits ← text.mapM decimalDigit
  if digits = [] ∨ maxDigits.any (fun most => digits.length > most) ∨
      (!allowZeroPrefix ∧ digits.head? = some 0 ∧ digits.length > 1) then
    none
  else
    let value := digits.foldl (fun value digit => value * 10 + digit) 0
    if value < limit then some value else none

/-- `str::parse::<Ipv4Addr>` -/
def parseIpv4AddrBytes (text : Bytes) : Option Ipv4Addr :=
  if text.length > 15 then none
  else
    match text.splitOn (46 : UInt8) with
    | [a, b, c, d] => do
      let octet (part : Bytes) : Option UInt8 := (readNumber part (some 3) false 256).map UInt8.ofNat
      some (.new (← octet a) (← octet b) (← octet c) (← octet d))
    | _ => none

def parseIpv4Addr (text : String) : Option Ipv4Addr := parseIpv4AddrBytes (utf8 text)

/-- `str::parse::<SocketAddrV4>` -/
def parseSocketAddrV4 (text : String) : Option SocketAddrV4 :=
  match (utf8 text).splitOn (58 : UInt8) with
  | [ip, port] => do
    some ⟨← parseIpv4AddrBytes ip, UInt16.ofNat (← readNumber port none true (2 ^ 16))⟩
  | _ => none

def decimalText (n : Nat) : String := toString n

/-- `Ipv4Addr::to_string` -/
def Ipv4Addr.text (a : Ipv4Addr) : String :=
  ".".intercalate (a.octets.val.map fun octet => decimalText octet.toNat)

def hexDigit (n : Nat) : Char := ("0123456789abcdef".toList).getD n '0'

/-- `hex` -/
def hex (bytes : Bytes) : String :=
  String.ofList (bytes.flatMap fun b => [hexDigit (b.toNat / 16), hexDigit (b.toNat % 16)])

example : parseIpv4Addr "100.88.0.10" = some (.new 100 88 0 10) := by decide +kernel

example : parseIpv4Addr "100.88.00.10" = none := by decide +kernel

end XsNexus

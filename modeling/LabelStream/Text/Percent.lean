import LabelStream.Octets
import LabelStream.Text.Hex

/-! Percent encoding: octets written as a percent sign and two hexadecimal digits. -/
namespace LabelStream.Text.Percent

/-- A percent sign with two hexadecimal digits is the octet they name. Without them it stands for
itself. -/
def decode : Octets → Octets
  | [] => []
  | 0x25 :: a :: b :: rest =>
    match Hex.value? (Char.ofNat a.toNat), Hex.value? (Char.ofNat b.toNat) with
    | some high, some low => UInt8.ofNat (high * 16 + low) :: decode rest
    | _, _ => 0x25 :: decode (a :: b :: rest)
  | b :: rest => b :: decode rest

def escape (b : UInt8) : List Char :=
  ['%', Hex.upper (b.toNat / 16), Hex.upper (b.toNat % 16)]

/-- Encodes all characters beyond printable ASCII and those that `reserved` lists. A percent sign is
left as it is. -/
def encode (reserved : List Char) (text : List Char) : List Char :=
  text.flatMap fun c =>
    if ' ' ≤ c && c ≤ '~' && !reserved.contains c then [c]
    else (String.singleton c).toUTF8.toList.flatMap escape

end LabelStream.Text.Percent

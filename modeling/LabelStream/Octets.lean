/-! Octets of a capture and the sixteen-bit numbers stored in them, low octet first. -/
namespace LabelStream

/-- A run of bytes, first byte first. -/
abbrev Octets := List UInt8

/-- The number that two octets stand for, the low one given first. -/
def pairValue (low high : UInt8) : Nat := low.toNat + 256 * high.toNat

/-- A number as two octets, low one first. Only its low sixteen bits are kept. -/
def pairOctets (n : Nat) : Octets := [UInt8.ofNat n, UInt8.ofNat (n / 256)]

theorem pairValue_lt (low high : UInt8) : pairValue low high < 65536 := by
  have := low.toNat_lt
  have := high.toNat_lt
  unfold pairValue
  omega

theorem pairValue_ofNat (n : Nat) (h : n < 65536) :
    pairValue (UInt8.ofNat n) (UInt8.ofNat (n / 256)) = n := by
  simp only [pairValue, UInt8.toNat_ofNat']
  omega

end LabelStream

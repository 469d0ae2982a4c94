/-! Non-negative single-precision numbers as a 24-bit mantissa and a binary exponent, with division
and decimal text computed exactly and rounded once. Only the normal range is represented; lengths in
millimetres never leave it. -/
namespace LabelStream

/-- The quotient rounded to the nearest natural number, a half going to the even neighbour. -/
def roundQuotient (num den : Nat) : Nat :=
  let q := num / den
  let r := num % den
  if den < 2 * r || (den == 2 * r && q % 2 == 1) then q + 1 else q

/-- The number `mantissa * 2 ^ exponent`; the mantissa is 0 or has exactly 24 bits. -/
structure Binary32 where
  mantissa : Nat
  exponent : Int
  deriving Repr, DecidableEq

namespace Binary32

def ratio (x : Binary32) : Nat × Nat :=
  (x.mantissa * Nat.pow 2 x.exponent.toNat, Nat.pow 2 (-x.exponent).toNat)

/-- The number nearest to `num / den`, ties going to the even mantissa. -/
def ofRatio (num den : Nat) : Binary32 :=
  if num = 0 then ⟨0, 0⟩
  else
    let scaled (e : Int) : Nat × Nat := (num * Nat.pow 2 (-e).toNat, den * Nat.pow 2 e.toNat)
    let guess : Int := (num.log2 : Int) - (den.log2 : Int) - 23
    let fits := let (n, d) := scaled guess; Nat.pow 2 23 ≤ n / d
    let exponent := if fits then guess else guess - 1
    let (n, d) := scaled exponent
    let mantissa := roundQuotient n d
    if mantissa = Nat.pow 2 24 then ⟨Nat.pow 2 23, exponent + 1⟩ else ⟨mantissa, exponent⟩

def ofNat (n : Nat) : Binary32 := ofRatio n 1

/-- The quotient, rounded once. -/
def div (x y : Binary32) : Binary32 :=
  let (xn, xd) := x.ratio
  let (yn, yd) := y.ratio
  ofRatio (xn * yd) (xd * yn)

/-- The encoding as 32 bits: exponent biased by 127, then the mantissa without its leading bit. -/
def bits (x : Binary32) : Nat :=
  if x.mantissa = 0 then 0 else (x.exponent + 150).toNat * Nat.pow 2 23 + (x.mantissa - Nat.pow 2 23)

/-- The exact value in decimal with one place, a half going to the even tenth. -/
def oneDecimal (x : Binary32) : String :=
  let (num, den) := x.ratio
  let tenths := roundQuotient (10 * num) den
  s!"{tenths / 10}.{tenths % 10}"

end Binary32
end LabelStream

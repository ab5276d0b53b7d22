/-! Finite binary numbers of 53 bits and the exact rounding of fractions to them. -/

namespace RpcSharp.Decimal

/-- The number `mantissa * 2 ^ exponent`. The exponent is the least for which the mantissa has at
most 53 bits, but not below -1074. -/
structure Binary64 where
  mantissa : Nat
  exponent : Int
deriving DecidableEq, Repr

namespace Binary64

def zero : Binary64 := ⟨0, -1074⟩

/-- A numerator and a denominator. -/
abbrev Fraction := Nat × Nat

/-- `num / den * 2 ^ (-exponent)`. -/
def scaled (num den : Nat) : Int → Fraction
  | .ofNat e => (num, den * Nat.pow 2 e)
  | .negSucc e => (num * Nat.pow 2 (e + 1), den)

/-- The integer nearest to a fraction, of two the even one. -/
def nearest (q : Fraction) : Nat :=
  let floor := q.1 / q.2
  let rest := 2 * (q.1 % q.2)
  if rest > q.2 || (rest == q.2 && floor % 2 == 1) then floor + 1 else floor

/-- The exponent with which `num / den` has 53 bits before the point, where there is one. -/
def exponentFor (num den : Nat) : Int :=
  let low : Int := (Nat.log2 num : Int) - Nat.log2 den - 53
  let q := scaled num den low
  max (-1074) (if q.1 / q.2 < Nat.pow 2 53 then low else low + 1)

/-- The nearest number, or none beyond the greatest. -/
def ofFraction (num den : Nat) : Option Binary64 :=
  if num = 0 then some zero
  else
    let e := exponentFor num den
    let m := nearest (scaled num den e)
    let r : Binary64 := if m = Nat.pow 2 53 then ⟨Nat.pow 2 52, e + 1⟩ else ⟨m, e⟩
    if r.exponent > 971 then none else some r

def fraction (a : Binary64) : Fraction :=
  match a.exponent with
  | .ofNat e => (a.mantissa * Nat.pow 2 e, 1)
  | .negSucc e => (a.mantissa, Nat.pow 2 (e + 1))

def mul (a b : Binary64) : Option Binary64 :=
  ofFraction (a.fraction.1 * b.fraction.1) (a.fraction.2 * b.fraction.2)

def div (a b : Binary64) : Option Binary64 :=
  ofFraction (a.fraction.1 * b.fraction.2) (a.fraction.2 * b.fraction.1)

def ofNat (n : Nat) : Option Binary64 := ofFraction n 1

def powerOfTen (e : Nat) : Binary64 := (ofNat (Nat.pow 10 e)).getD zero

/-- `n * 10 ^ e`, computed with one rounding for `n` and one for each multiplication or division
by a power of ten up to the 308th. -/
def ofDecimal (n : Nat) (e : Int) : Option Binary64 :=
  if n = 0 then some zero
  else
    match e with
    | .ofNat e => if e > 308 then none else do (← ofNat n).mul (powerOfTen e)
    | .negSucc e => do
      let rounds := min (e / 308) 3
      let start ← (List.replicate rounds (powerOfTen 308)).foldlM div (← ofNat n)
      start.div (powerOfTen (e + 1 - 308 * (e / 308)))

end Binary64

end RpcSharp.Decimal

import RpcSharp.Decimal.Binary64

/-! The decimal of fewest digits that is closer to a binary number than to its neighbours. -/

namespace RpcSharp

/-- The number `digits * 10 ^ exponent`. -/
structure Decimal where
  digits : Nat
  exponent : Int
deriving DecidableEq, Repr

namespace Decimal

def fraction (d : Decimal) : Nat × Nat :=
  match d.exponent with
  | .ofNat e => (d.digits * Nat.pow 10 e, 1)
  | .negSucc e => (d.digits, Nat.pow 10 (e + 1))

def less (a b : Nat × Nat) : Bool := a.1 * b.2 < b.1 * a.2

/-- The ends of the interval of numbers that round to `a`, which contains its ends if the
mantissa is even. -/
def interval (a : Binary64) : (Nat × Nat) × (Nat × Nat) :=
  let quarter : Binary64 → Nat × Nat := fun b => (b.fraction.1, b.fraction.2 * 4)
  let below := if a.mantissa = Nat.pow 2 52 ∧ a.exponent > -1074 then 1 else 2
  (quarter ⟨4 * a.mantissa - below, a.exponent⟩, quarter ⟨4 * a.mantissa + 2, a.exponent⟩)

def roundsTo (a : Binary64) (d : Decimal) : Bool :=
  let (low, high) := interval a
  if a.mantissa % 2 = 0 then !less d.fraction low && !less high d.fraction
  else less low d.fraction && less d.fraction high

/-- The decimal `floor (a / 10 ^ e)` at the exponent `e`. -/
def floorAt (a : Binary64) (e : Int) : Decimal :=
  match e with
  | .ofNat k => ⟨a.fraction.1 / (a.fraction.2 * Nat.pow 10 k), e⟩
  | .negSucc k => ⟨a.fraction.1 * Nat.pow 10 (k + 1) / a.fraction.2, e⟩

def distance (a : Binary64) (d : Decimal) : Nat × Nat :=
  let p := a.fraction
  let q := d.fraction
  (max (p.1 * q.2) (q.1 * p.2) - min (p.1 * q.2) (q.1 * p.2), p.2 * q.2)

/-- Of the two neighbours of `a` at the exponent `e`, the one that rounds to it: of both the
nearer, at equal distance the even one. -/
def candidate (a : Binary64) (e : Int) : Option Decimal :=
  let low := floorAt a e
  let high : Decimal := ⟨low.digits + 1, e⟩
  match roundsTo a low, roundsTo a high with
  | true, true =>
    if less (distance a low) (distance a high) then some low
    else if less (distance a high) (distance a low) then some high
    else if low.digits % 2 = 0 then some low else some high
  | true, false => some low
  | false, true => some high
  | false, false => none

/-- The number of digits before the point, negative for zeros after it. -/
def magnitude (a : Binary64) : Int :=
  let whole := a.fraction.1 / a.fraction.2
  if whole > 0 then (Nat.toDigits 10 whole).length
  else
    let inverse := a.fraction.2 / a.fraction.1
    1 - (Nat.toDigits 10 inverse).length

/-- Drops the zeros that end the digits, `count` of them at most. -/
def trimmed : Nat → Decimal → Decimal
  | 0, d => d
  | count + 1, d =>
    if d.digits > 0 && d.digits % 10 = 0 then trimmed count ⟨d.digits / 10, d.exponent + 1⟩ else d

def shortest (a : Binary64) : Decimal :=
  let top := magnitude a
  let tries := (List.range 17).map fun (k : Nat) => candidate a (top - (k + 1))
  trimmed 400 ((tries.findSome? id).getD ⟨0, 0⟩)

end Decimal

end RpcSharp

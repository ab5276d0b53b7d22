import RpcSharp.Decimal.Shortest
import RpcSharp.Json.Fault
import RpcSharp.Text.Basic

/-! Numbers: their spelling, their value and the text that shows the value. -/

namespace RpcSharp.Json

open RpcSharp.Decimal RpcSharp.Text

/-- An integer of 64 bits, or what double precision makes of any other number. -/
inductive Number
  | natural (n : Nat)
  | negative (n : Nat)
  | real (isNegative : Bool) (magnitude : Binary64)
deriving DecidableEq, Repr

/-- The parts of a number as written. -/
structure Numeral where
  isNegative : Bool
  whole : List Nat
  fraction : Option (List Nat)
  exponent : Option Int
deriving DecidableEq, Repr

def maxNatural : Nat := Nat.pow 2 64 - 1

/-- Appends digits to a significand as long as it stays below 2^64. The rest is dropped. -/
def accumulate : Nat → List Nat → Nat × List Nat
  | n, [] => (n, [])
  | n, d :: ds => if n * 10 + d > maxNatural then (n, d :: ds) else accumulate (n * 10 + d) ds

/-- The significand that is kept and the power of ten that it is multiplied with. -/
def Numeral.scaled (n : Numeral) : Nat × Int :=
  let (whole, dropped) := accumulate 0 n.whole
  let fraction := n.fraction.getD []
  let (all, rest) := accumulate whole fraction
  (all, dropped.length - (fraction.length - rest.length : Nat) + n.exponent.getD 0)

def Numeral.real (n : Numeral) : Except Fault Number :=
  let (significand, power) := n.scaled
  match Binary64.ofDecimal significand power with
  | some m => .ok (.real n.isNegative m)
  | none => .error .numberOutOfRange

/-- Minus zero and integers that 64 bits do not hold are real numbers. -/
def Numeral.value (n : Numeral) : Except Fault Number :=
  if n.fraction.isSome || n.exponent.isSome then n.real
  else
    match accumulate 0 n.whole with
    | (v, []) =>
      if !n.isNegative then .ok (.natural v)
      else if 0 < v && v ≤ Nat.pow 2 63 then .ok (.negative v)
      else n.real
    | _ => n.real

def digitOf? : Glyph → Option Nat
  | some c => if c.isDigit then some (c.toNat - '0'.toNat) else none
  | none => none

/-- The digits that a text starts with. -/
def digits : List Glyph → List Nat
  | [] => []
  | g :: rest =>
    match digitOf? g with
    | some d => d :: digits rest
    | none => []

/-- What is wrong where a digit is due. The text may end there. -/
def noDigit : List Glyph → Faults
  | [] => ⟨.endInValue, .invalidNumber, .expectedValue⟩
  | _ => ⟨.invalidNumber, .invalidNumber, .expectedValue⟩

def value (ds : List Nat) : Nat := ds.foldl (fun n d => n * 10 + d) 0

/-- The exponent at the start of a text, with its length. -/
def scanExponent (s : List Glyph) : Except Faults (Option Int × Nat) :=
  match s with
  | some 'e' :: rest | some 'E' :: rest =>
    let (isNegative, signs, tail) :=
      match rest with
      | some '-' :: t => (true, 1, t)
      | some '+' :: t => (false, 1, t)
      | t => (false, 0, t)
    match digits tail with
    | [] => .error (noDigit tail)
    | ds =>
      let e : Int := value ds
      .ok (some (if isNegative then -e else e), 1 + signs + ds.length)
  | _ => .ok (none, 0)

/-- The fraction at the start of a text, with its length. -/
def scanFraction (s : List Glyph) : Except Faults (Option (List Nat) × Nat) :=
  match s with
  | some '.' :: rest =>
    match digits rest with
    | [] => .error (noDigit rest)
    | ds => .ok (some ds, 1 + ds.length)
  | _ => .ok (none, 0)

/-- The digits before the point: a zero stands alone. -/
def scanWhole (s : List Glyph) : Except Faults (List Nat) :=
  match digits s with
  | [] => .error (noDigit s)
  | 0 :: _ :: _ => .error ⟨.invalidNumber, .invalidNumber, .expectedValue⟩
  | ds => .ok ds

/-- The number that a text starts with after its sign, with its length. -/
def scanNumber (isNegative : Bool) (s : List Glyph) : Except Faults (Numeral × Nat) := do
  let whole ← scanWhole s
  let s := s.drop whole.length
  let (fraction, size) ← scanFraction s
  let s := s.drop size
  let (exponent, more) ← scanExponent s
  return (⟨isNegative, whole, fraction, exponent⟩, whole.length + size + more)

/-- Positional from 0.00001 up to sixteen digits before the point, else with an exponent. -/
def showMagnitude (m : Binary64) : String :=
  if m.mantissa = 0 then "0.0"
  else
    let d := Decimal.shortest m
    let ds := Nat.toDigits 10 d.digits
    let top : Int := d.exponent + ds.length - 1
    String.ofList <|
      if -5 ≤ top ∧ top ≤ 15 then
        if 0 ≤ d.exponent then ds ++ List.replicate d.exponent.toNat '0' ++ ['.', '0']
        else if 0 ≤ top then ds.take (top + 1).toNat ++ '.' :: ds.drop (top + 1).toNat
        else ['0', '.'] ++ List.replicate (-top - 1).toNat '0' ++ ds
      else
        ds.take 1 ++ (if ds.length > 1 then '.' :: ds.drop 1 else [])
          ++ ['e', if top < 0 then '-' else '+'] ++ Nat.toDigits 10 top.natAbs

def Number.describe : Number → String
  | .natural n => s!"integer `{n}`"
  | .negative n => s!"integer `-{n}`"
  | .real false m => "floating point `" ++ showMagnitude m ++ "`"
  | .real true m => "floating point `-" ++ showMagnitude m ++ "`"

end RpcSharp.Json

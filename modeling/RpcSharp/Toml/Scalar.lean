import RpcSharp.Decimal.Shortest
import RpcSharp.Text.Basic

/-! Unquoted values: which texts are numbers, and which are dates and times. A number that is too large
is none. -/

namespace RpcSharp.Toml

open RpcSharp.Text

def isHexDigit (c : Char) : Bool :=
  c.isDigit || ('a' ≤ c && c ≤ 'f') || ('A' ≤ c && c ≤ 'F')

/-- Digits, at least one, with single underscores between them. -/
def isDigitRun (isDigit : Char → Bool) (s : List Char) : Bool :=
  (splitWhere (· == '_') s).all fun part => !part.isEmpty && part.all isDigit

/-- A decimal integer has no zero in front. -/
def isWhole (s : List Char) : Bool :=
  isDigitRun Char.isDigit s && (s.length == 1 || s.head? != some '0')

def dropSign : List Char → List Char
  | '+' :: rest | '-' :: rest => rest
  | s => s

def hexValue (c : Char) : Nat :=
  if c.isDigit then c.toNat - '0'.toNat else c.toLower.toNat - 'a'.toNat + 10

/-- The number that digits stand for, with underscores between them or without. -/
def numberIn (radix : Nat) (s : List Char) : Nat :=
  s.foldl (fun n c => if c == '_' then n else n * radix + hexValue c) 0

def number (s : List Char) : Nat := numberIn 10 s

/-- Digits of a number of at most 128 bits. -/
def isNatural (radix : Nat) (isDigit : Char → Bool) (s : List Char) : Bool :=
  isDigitRun isDigit s && numberIn radix s < Nat.pow 2 128

/-- An integer has at most 128 bits, of which a negative one needs the first for its sign. -/
def isInteger (s : List Char) : Bool :=
  match s with
  | '0' :: 'x' :: digits => isNatural 16 isHexDigit digits
  | '0' :: 'o' :: digits => isNatural 8 (fun c => '0' ≤ c && c ≤ '7') digits
  | '0' :: 'b' :: digits => isNatural 2 (fun c => c == '0' || c == '1') digits
  | '-' :: digits => isWhole digits && number digits ≤ Nat.pow 2 127
  | s => isWhole (dropSign s) && isNatural 10 Char.isDigit (dropSign s)

def isExponent (s : List Char) : Bool := isDigitRun Char.isDigit (dropSign s)

def exponent (s : List Char) : Int :=
  match s with
  | '-' :: digits => -(number digits : Int)
  | s => number (dropSign s)

/-- Whether a number is not beyond the greatest binary number, which has 309 digits. -/
def isBounded (d : Decimal) : Bool :=
  let size : Int := (Nat.toDigits 10 d.digits).length + d.exponent
  d.digits == 0 || size < 309 ||
    (size == 309 && (Decimal.Binary64.ofFraction d.fraction.1 d.fraction.2).isSome)

def isFloatBody (s : List Char) : Bool :=
  match splitWhere (fun c => c == 'e' || c == 'E') s with
  | [mantissa] => isPointed mantissa && isInRange mantissa 0
  | [mantissa, power] =>
    (isWhole mantissa || isPointed mantissa) && isExponent power
      && isInRange mantissa (exponent power)
  | _ => false
where
  isPointed (s : List Char) : Bool :=
    match splitWhere (· == '.') s with
    | [whole, fraction] => isWhole whole && isDigitRun Char.isDigit fraction
    | _ => false
  isInRange (mantissa : List Char) (e : Int) : Bool :=
    let places := ((mantissa.dropWhile (· != '.')).filter Char.isDigit).length
    isBounded ⟨number (mantissa.filter Char.isDigit), e - places⟩

def isFloat (s : List Char) : Bool :=
  let s := dropSign s
  s == "inf".toList || s == "nan".toList || isFloatBody s

/-- Two digits that are at most a bound. -/
def isPair (least most : Nat) (s : List Char) : Bool :=
  s.length == 2 && s.all Char.isDigit && least ≤ number s && number s ≤ most

def isLeapYear (y : Nat) : Bool := y % 4 == 0 && (y % 100 != 0 || y % 400 == 0)

def daysIn (year month : Nat) : Nat :=
  if month = 2 then (if isLeapYear year then 29 else 28)
  else if month = 4 ∨ month = 6 ∨ month = 9 ∨ month = 11 then 30
  else 31

def isDate (s : List Char) : Bool :=
  match splitWhere (· == '-') s with
  | [year, month, day] =>
    year.length == 4 && year.all Char.isDigit && isPair 1 12 month
      && isPair 1 (daysIn (number year) (number month)) day
  | _ => false

/-- Hours and minutes, then seconds and a fraction of them if given. -/
def isTime (s : List Char) : Bool :=
  match splitWhere (· == ':') s with
  | [hour, minute] => isPair 0 23 hour && isPair 0 59 minute
  | [hour, minute, second] =>
    isPair 0 23 hour && isPair 0 59 minute &&
      match splitWhere (· == '.') second with
      | [second] => isPair 0 60 second
      | [second, fraction] => isPair 0 60 second && !fraction.isEmpty && fraction.all Char.isDigit
      | _ => false
  | _ => false

def isOffset (s : List Char) : Bool :=
  match splitWhere (· == ':') s with
  | [hour, minute] => isPair 0 23 hour && isPair 0 59 minute
  | _ => false

def isTimeWithOffset (s : List Char) : Bool :=
  let time := s.takeWhile fun c => c.isDigit || c == ':' || c == '.'
  isTime time &&
    match s.drop time.length with
    | [] | ['Z'] | ['z'] => true
    | '+' :: offset | '-' :: offset => isOffset offset
    | _ => false

def isMoment (s : List Char) : Bool :=
  isTime s || isDate s ||
    (isDate (s.take 10) &&
      match s.drop 10 with
      | 'T' :: time | 't' :: time | ' ' :: time => isTimeWithOffset time
      | _ => false)

end RpcSharp.Toml

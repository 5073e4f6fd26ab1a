import PromptTemplate.Number.Binary64
import PromptTemplate.Text.Basic

namespace PromptTemplate.Binary64

/-- Decimal digits tried before giving up; seventeen always suffice. -/
def maxDigits : Nat := 17

structure Neighbourhood where
  low : Nat
  value : Nat
  high : Nat
  den : Nat
  closed : Bool

/-- All reals in the interval round to the number; its ends do so when the mantissa is even. Below
a power of two the numbers lie twice as dense. -/
def neighbourhood (m : Nat) (e : Int) : Neighbourhood :=
  let below := if m = leastNormal && leastExponent < e then 1 else 2
  let (up, down) :=
    match e - 2 with
    | .ofNat k => (Nat.pow 2 k, 1)
    | .negSucc k => (1, Nat.pow 2 (k + 1))
  { low := (4 * m - below) * up, value := 4 * m * up, high := (4 * m + 2) * up,
    den := down, closed := m % 2 = 0 }

def Neighbourhood.inUnits (v : Neighbourhood) : Int → Neighbourhood
  | .ofNat k => { v with den := v.den * Nat.pow 10 k }
  | .negSucc k =>
      let f := Nat.pow 10 (k + 1)
      { v with low := v.low * f, value := v.value * f, high := v.high * f }

def Neighbourhood.holds (v : Neighbourhood) (n : Nat) : Bool :=
  let x := n * v.den
  if v.closed then v.low ≤ x && x ≤ v.high else v.low < x && x < v.high

def Neighbourhood.nearest? (v : Neighbourhood) : Option Nat :=
  let n := v.value / v.den
  let r := v.value % v.den
  match v.holds n, v.holds (n + 1) with
  | true, false => some n
  | false, true => some (n + 1)
  | false, false => none
  | true, true =>
      if 2 * r < v.den then some n
      else if v.den < 2 * r then some (n + 1)
      else if n % 2 = 0 then some n else some (n + 1)

def leadingPower (v : Neighbourhood) : Int :=
  let shift : Nat := 350
  ((Nat.toDigits 10 (v.value * Nat.pow 10 shift / v.den)).length : Int) - 1 - shift

def firstGrid (v : Neighbourhood) : Nat → Int → Nat × Int
  | 0, unit => (v.value / v.den, unit)
  | fuel + 1, unit =>
      match (v.inUnits unit).nearest? with
      | some n => (n, unit)
      | none => firstGrid v fuel (unit - 1)

def onGrid (n : Nat) (unit : Int) : Text × Int :=
  let digits := Nat.toDigits 10 n
  let trimmed := (digits.reverse.dropWhile (· == '0')).reverse
  (trimmed, unit + digits.length - 1)

def shortest (m : Nat) (e : Int) : Text × Int :=
  let v := neighbourhood m e
  let grid := firstGrid v maxDigits (leadingPower v)
  onGrid grid.1 grid.2

def layout (digits : Text) (power : Int) : Text :=
  if power < -4 || 16 ≤ power then
    let mantissa :=
      match digits with
      | d :: e :: r => d :: '.' :: e :: r
      | _ => digits
    let size := Text.ofNat power.natAbs
    mantissa ++ 'e' :: (if power < 0 then '-' else '+') :: List.replicate (2 - size.length) '0' ++ size
  else if power < 0 then
    '0' :: '.' :: List.replicate (power.natAbs - 1) '0' ++ digits
  else
    let whole := power.toNat + 1
    if digits.length ≤ whole then
      digits ++ List.replicate (whole - digits.length) '0' ++ ['.', '0']
    else digits.take whole ++ '.' :: digits.drop whole

def toText : Binary64 → Text
  | .nan => "nan".toList
  | .infinity negative => (if negative then "-inf" else "inf").toList
  | .finite negative m e =>
      let body :=
        if m = 0 then "0.0".toList
        else let (digits, power) := shortest m e; layout digits power
      if negative then '-' :: body else body

end PromptTemplate.Binary64

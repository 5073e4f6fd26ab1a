namespace PromptTemplate

/-- A number of the form `mantissa * 2 ^ exponent` with a sign, the mantissa below `2 ^ 53` and the
exponent from `-1074` to `971`; or one of the two infinities; or not a number. -/
inductive Binary64 where
  | nan
  | infinity (negative : Bool)
  | finite (negative : Bool) (mantissa : Nat) (exponent : Int)
  deriving DecidableEq, Repr

namespace Binary64

def leastExponent : Int := -1074

def greatestExponent : Int := 971

def zero : Binary64 := .finite false 0 leastExponent

def mantissaBound : Nat := Nat.pow 2 53

def leastNormal : Nat := Nat.pow 2 52

def one : Binary64 := .finite false leastNormal (-52)

def scaled (num den : Nat) : Int → Nat × Nat
  | .ofNat e => (num, den * Nat.pow 2 e)
  | .negSucc e => (num * Nat.pow 2 (e + 1), den)

def roundHalfEven (num den : Nat) : Nat :=
  let q := num / den
  let r := num % den
  if 2 * r < den then q
  else if den < 2 * r then q + 1
  else if q % 2 = 0 then q else q + 1

/-- The exponent at which the whole part of `num / den` has 53 binary digits, but never below the
least one. -/
def exponentOf (num den : Nat) : Int :=
  let guess := max leastExponent ((num.log2 : Int) - den.log2 - 53)
  let (n, d) := scaled num den guess
  if n / d < mantissaBound then guess else guess + 1

def ofRatio (negative : Bool) (num den : Nat) : Binary64 :=
  if num = 0 then .finite negative 0 leastExponent
  else
    let e := exponentOf num den
    let (n, d) := scaled num den e
    let m := roundHalfEven n d
    let (m, e) := if m = mantissaBound then (leastNormal, e + 1) else (m, e)
    if greatestExponent < e then .infinity negative else .finite negative m e

def ofInt (n : Int) : Binary64 :=
  ofRatio (n < 0) n.natAbs 1

def isFinite : Binary64 → Bool
  | .finite .. => true
  | _ => false

def integer? : Binary64 → Option Int
  | .finite negative m e =>
      let magnitude : Option Nat :=
        match e with
        | .ofNat k => some (m * Nat.pow 2 k)
        | .negSucc k => if m % Nat.pow 2 (k + 1) = 0 then some (m / Nat.pow 2 (k + 1)) else none
      magnitude.map fun n => if negative then -(n : Int) else n
  | _ => none

def units (negative : Bool) (mantissa : Nat) (exponent e : Int) : Int :=
  let n : Int := (mantissa * Nat.pow 2 (exponent - e).toNat : Nat)
  if negative then -n else n

def compare? : Binary64 → Binary64 → Option Ordering
  | .nan, _ => none
  | _, .nan => none
  | .infinity a, .infinity b => some (if a = b then .eq else if a then .lt else .gt)
  | .infinity a, .finite .. => some (if a then .lt else .gt)
  | .finite .., .infinity b => some (if b then .gt else .lt)
  | .finite a m e, .finite b n f =>
      let least := min e f
      some (compare (units a m e least) (units b n f least))

def negate : Binary64 → Binary64
  | .nan => .nan
  | .infinity negative => .infinity (!negative)
  | .finite negative m e => .finite (!negative) m e

def ofUnits (negativeZero : Bool) (n e : Int) : Binary64 :=
  if n = 0 then .finite negativeZero 0 leastExponent
  else
    let (num, den) := scaled n.natAbs 1 (-e)
    ofRatio (n < 0) num den

def add : Binary64 → Binary64 → Binary64
  | .nan, _ => .nan
  | _, .nan => .nan
  | .infinity a, .infinity b => if a = b then .infinity a else .nan
  | .infinity a, .finite .. => .infinity a
  | .finite .., .infinity b => .infinity b
  | .finite a m e, .finite b n f =>
      let least := min e f
      ofUnits (a && b) (units a m e least + units b n f least) least

def mul : Binary64 → Binary64 → Binary64
  | .nan, _ => .nan
  | _, .nan => .nan
  | .infinity a, .infinity b => .infinity (a != b)
  | .infinity a, .finite b n _ => if n = 0 then .nan else .infinity (a != b)
  | .finite a m _, .infinity b => if m = 0 then .nan else .infinity (a != b)
  | .finite a m e, .finite b n f =>
      let n : Int := (m * n : Nat)
      ofUnits (a != b) (if a != b then -n else n) (e + f)

def lt (x y : Binary64) : Bool :=
  compare? x y == some .lt

def same (x y : Binary64) : Bool :=
  compare? x y == some .eq

def le (x y : Binary64) : Bool :=
  lt x y || same x y

end Binary64

end PromptTemplate

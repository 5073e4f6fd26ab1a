import PromptTemplate.Number.Binary64
import PromptTemplate.Text.Case
import PromptTemplate.Text.Digit
import PromptTemplate.Text.Hex

namespace PromptTemplate

/-- The number `digits * 10 ^ exponent` with a sign. -/
structure Decimal where
  negative : Bool
  digits : Nat
  exponent : Int
  deriving DecidableEq, Repr

namespace Decimal

def takeSign : Text → Bool × Text
  | '-' :: r => (true, r)
  | '+' :: r => (false, r)
  | t => (false, t)

def exponent? (worth? : Char → Option Nat) : Text → Option Int
  | [] => some 0
  | c :: r =>
      if c = 'e' || c = 'E' then
        let (negative, t) := takeSign r
        let (ds, rest) := Text.takeDigits worth? t
        if ds.isEmpty || !rest.isEmpty then none
        else
          let n : Int := Text.digitsValue ds
          some (if negative then -n else n)
      else none

def read? (worth? : Char → Option Nat) (t : Text) : Option Decimal :=
  let (negative, t) := takeSign t
  let (whole, t) := Text.takeDigits worth? t
  let (fraction, t) :=
    match t with
    | '.' :: r => Text.takeDigits worth? r
    | _ => ([], t)
  if whole.isEmpty && fraction.isEmpty then none
  else
    (exponent? worth? t).map fun e =>
      { negative, digits := Text.digitsValue (whole ++ fraction), exponent := e - fraction.length }

def toBinary64 (x : Decimal) : Binary64 :=
  let size : Int := (Nat.toDigits 10 x.digits).length + x.exponent
  if x.digits = 0 then .finite x.negative 0 Binary64.leastExponent
  else if 310 < size then .infinity x.negative
  else if size < -330 then .finite x.negative 0 Binary64.leastExponent
  else
    match x.exponent with
    | .ofNat k => Binary64.ofRatio x.negative (x.digits * Nat.pow 10 k) 1
    | .negSucc k => Binary64.ofRatio x.negative x.digits (Nat.pow 10 (k + 1))

end Decimal

def Binary64.ofName? (t : Text) : Option Binary64 :=
  let (negative, t) := Decimal.takeSign t
  let word := t.lower
  if word = "inf".toList || word = "infinity".toList then some (.infinity negative)
  else if word = "nan".toList then some .nan
  else none

def Binary64.ofText? (t : Text) : Option Binary64 :=
  let t := Text.stripNumeral t
  match Decimal.read? Text.digit? t with
  | some d => some d.toBinary64
  | none => Binary64.ofName? t

def dropUnderscores? (worth? : Char → Option Nat) : Text → Option Text
  | [] => some []
  | '_' :: _ => none
  | c :: '_' :: d :: r =>
      if (worth? c).isSome && (worth? d).isSome then
        (dropUnderscores? worth? (d :: r)).map (c :: ·)
      else none
  | c :: r => (dropUnderscores? worth? r).map (c :: ·)

def readInteger? (worth? : Char → Option Nat) (t : Text) : Option Int :=
  let (negative, t) := Decimal.takeSign t
  match dropUnderscores? worth? t with
  | none => none
  | some t =>
      let (ds, rest) := Text.takeDigits worth? t
      if ds.isEmpty || !rest.isEmpty || Text.maxDigits < ds.length then none
      else
        let n : Int := Text.digitsValue ds
        some (if negative then -n else n)

def Text.digitIn? (base : Nat) (c : Char) : Option Nat :=
  ((digit? c).orElse fun _ => hexDigit? c).filter (· < base)

def readWhole? (base : Nat) (letter : Option Char) (t : Text) : Option Int :=
  let (negative, t) := Decimal.takeSign (Text.stripNumeral t)
  let t :=
    match t with
    | '0' :: c :: r => if letter.isSome && letter = (Text.lower [c]).head? then r else t
    | _ => t
  match t.mapM (Text.digitIn? base) with
  | none | some [] => none
  | some ds =>
      -- the limit is not set for bases two, eight and sixteen
      if base = 10 && Text.maxDigits < ds.length then none
      else
        let n : Int := (ds.foldl (fun n d => n * base + d) 0 : Nat)
        some (if negative then -n else n)

end PromptTemplate

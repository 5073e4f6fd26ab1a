import PromptTemplate.Calendar
import PromptTemplate.Number.Decimal
import PromptTemplate.Data.Yaml.Mark

namespace PromptTemplate.Yaml

inductive Kind where
  | null
  | bool
  | int
  | float
  | binary
  | moment
  | ordered
  | pairs
  | set
  | text
  | sequence
  | mapping
  | merge
  | standard
  | other (name : Text)
  deriving DecidableEq, Repr

namespace Kind

def space : Text := "tag:yaml.org,2002:".toList

def names : List (String × Kind) :=
  [("null", .null), ("bool", .bool), ("int", .int), ("float", .float), ("binary", .binary),
   ("timestamp", .moment), ("omap", .ordered), ("pairs", .pairs), ("set", .set), ("str", .text),
   ("seq", .sequence), ("map", .mapping), ("merge", .merge), ("value", .standard)]

def ofName (t : Text) : Kind :=
  match (Text.after? space t).bind fun word => names.find? fun e => e.1.toList = word with
  | some (_, kind) => kind
  | none => .other t

end Kind

def trueWords : List Text :=
  ["yes", "Yes", "YES", "true", "True", "TRUE", "on", "On", "ON"].map String.toList

def falseWords : List Text :=
  ["no", "No", "NO", "false", "False", "FALSE", "off", "Off", "OFF"].map String.toList

def nullWords : List Text :=
  ["", "~", "null", "Null", "NULL"].map String.toList

def infinityWords : List Text :=
  [".inf", ".Inf", ".INF"].map String.toList

def nanWords : List Text :=
  [".nan", ".NaN", ".NAN"].map String.toList

def dropLines (t : Text) : Text :=
  t.filter (· ≠ '_')

def isDigitOrLine (c : Char) : Bool :=
  isDigit c || c = '_'

def startsWithDigit (t : Text) : Bool :=
  match t with
  | c :: _ => isDigit c
  | [] => false

def isSixtieth : Text → Bool
  | [c] => isDigit c
  | [c, d] => '0' ≤ c && c ≤ '5' && isDigit d
  | _ => false

def isSixties (t : Text) : Bool :=
  match Text.pieces (· == ':') t with
  | whole :: parts => startsWithDigit whole && whole.all isDigitOrLine && parts.all isSixtieth
  | [] => false

def isInt (t : Text) : Bool :=
  match (Decimal.takeSign t).2 with
  | ['0'] => true
  | '0' :: 'b' :: c :: r => (c :: r).all fun c => c = '0' || c = '1' || c = '_'
  | '0' :: 'x' :: c :: r => (c :: r).all fun c => (Text.hexDigit? c).isSome || c = '_'
  | '0' :: r => r.all fun c => ('0' ≤ c && c ≤ '7') || c = '_'
  | t => isSixties t

def isExponent : Text → Bool
  | [] => true
  | e :: s :: d :: r => (e = 'e' || e = 'E') && (s = '+' || s = '-') && (d :: r).all isDigit
  | _ => false

def isFloat (t : Text) : Bool :=
  let unsigned := (Decimal.takeSign t).2
  let signed := unsigned.length < t.length
  if infinityWords.contains unsigned || nanWords.contains t then true
  else
    match Text.cut? '.' unsigned with
    | none => false
    | some (whole, r) =>
        let rest := r.dropWhile isDigitOrLine
        if whole.isEmpty then !signed && startsWithDigit r && isExponent rest
        else if whole.all isDigitOrLine then startsWithDigit whole && isExponent rest
        else isSixties whole && rest.isEmpty

def sixties (parts : List Text) : List (Nat × Text) :=
  parts.reverse.zipIdx.map fun (t, i) => (Nat.pow 60 i, t)

def intOfUnsigned? (t : Text) : Option Int :=
  match t with
  | [] => none
  | ['0'] => some 0
  | '0' :: 'b' :: r => readWhole? 2 (some 'b') r
  | '0' :: 'x' :: r => readWhole? 16 (some 'x') r
  | '0' :: _ => readWhole? 8 (some 'o') t
  | _ =>
      match Text.pieces (· == ':') t with
      | [_] => readWhole? 10 none t
      | parts => do
          let ns ← (sixties parts).mapM fun (base, t) => (readWhole? 10 none t).map fun n => n * (base : Int)
          return ns.foldl (fun (m n : Int) => m + n) 0

def int? (t : Text) : Option Int :=
  let t := dropLines t
  let (negative, unsigned) := Decimal.takeSign t
  (intOfUnsigned? unsigned).map fun n => if negative then -n else n

def floatOfUnsigned? (t : Text) : Option Binary64 :=
  if t = ".inf".toList then some (.infinity false)
  else if t = ".nan".toList then some .nan
  else
    match Text.pieces (· == ':') t with
    | [_] => Binary64.ofText? t
    | parts => do
        let xs ← (sixties parts).mapM fun (base, t) => do
          let x ← Binary64.ofText? t
          let factor := Binary64.ofInt base
          if factor.isFinite then some (x.mul factor) else none
        return xs.foldl Binary64.add .zero

def float? (t : Text) : Option Binary64 :=
  let t := Text.lower (dropLines t)
  if t.isEmpty then none
  else
    let (negative, unsigned) := Decimal.takeSign t
    (floatOfUnsigned? unsigned).map fun x => if negative then x.negate else x

def dropFinalBreak (t : Text) : Text :=
  match t.reverse with
  | '\n' :: c :: r => (c :: r).reverse
  | _ => t

def takeNumber? (least most : Nat) (t : Text) : Option (Nat × Text) :=
  let digits := (t.take most).takeWhile isDigit
  if digits.length < least then none
  else some (digits.foldl (fun n c => n * 10 + (c.toNat - 0x30)) 0, t.drop digits.length)

def expect? (c : Char) : Text → Option Text
  | d :: r => if d = c then some r else none
  | [] => none

structure Stamp where
  year : Nat
  month : Nat
  day : Nat
  clock : Option (Nat × Nat × Nat × Nat)
  offset : Option Int
  deriving Repr

def takeOffset? (t : Text) : Option (Option Int) :=
  match t.dropWhile isSpace with
  | [] => if t.isEmpty then some none else none
  | ['Z'] => some (some 0)
  | s :: r =>
      if s = '+' || s = '-' then do
        let (hours, r) ← takeNumber? 1 2 r
        let minutes ← (
          match r with
          | [] => some 0
          | ':' :: r => (takeNumber? 2 2 r).bind fun (n, r) => if r.isEmpty then some n else none
          | _ => none : Option Nat)
        let total : Int := hours * 60 + minutes
        return some (if s = '-' then -total else total)
      else none

def Stamp.read? (t : Text) : Option Stamp := do
  let (year, r) ← takeNumber? 4 4 t
  let (month, r) ← takeNumber? 1 2 (← expect? '-' r)
  let (day, r) ← takeNumber? 1 2 (← expect? '-' r)
  match r with
  | [] => return ⟨year, month, day, none, none⟩
  | c :: s => do
      let r ← if c = 'T' || c = 't' then some s
        else if isSpace c then some (s.dropWhile isSpace) else none
      let (hour, r) ← takeNumber? 1 2 r
      let (minute, r) ← takeNumber? 2 2 (← expect? ':' r)
      let (second, r) ← takeNumber? 2 2 (← expect? ':' r)
      let (fraction, r) :=
        match r with
        | '.' :: r => (r.takeWhile isDigit, r.dropWhile isDigit)
        | _ => ([], r)
      let offset ← takeOffset? r
      return ⟨year, month, day, some (hour, minute, second, Clock.microseconds fraction), offset⟩

def isMoment (t : Text) : Bool :=
  match Stamp.read? t with
  | some s => s.clock.isSome || t.length = 10
  | none => false

def Stamp.moment? (s : Stamp) : Option Moment := do
  let d ← Date.ofNumbers? s.year s.month s.day
  match s.clock with
  | none => return .date d
  | some (hour, minute, second, microsecond) =>
      let c ← Clock.ofNumbers? hour minute second microsecond
      if s.offset.all Moment.isOffset then return .dateTime d c s.offset else none

def moment? (t : Text) : Option Moment :=
  (Stamp.read? (dropFinalBreak t)).bind Stamp.moment?

def Kind.ofPlain (t : Text) : Kind :=
  let t := dropFinalBreak t
  if nullWords.contains t then .null
  else if trueWords.contains t || falseWords.contains t then .bool
  else if isFloat t then .float
  else if isInt t then .int
  else if isMoment t then .moment
  else if t = ['<', '<'] then .merge
  else if t = ['='] then .standard
  else .text

end PromptTemplate.Yaml

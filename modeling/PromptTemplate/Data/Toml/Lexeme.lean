import PromptTemplate.Calendar
import PromptTemplate.Number.Decimal
import PromptTemplate.Value

namespace PromptTemplate.Toml

def isSpace (c : Char) : Bool :=
  c = ' ' || c = '\t'

def skip (t : Text) : Text :=
  t.dropWhile isSpace

def skipSpaces (t : Text) : Text :=
  t.dropWhile fun c => isSpace c || c = '\n'

def isForbidden (c : Char) : Bool :=
  (c.toNat < 0x20 && c ≠ '\t') || c.toNat = 0x7f

def dropComment (t : Text) : Text :=
  t.dropWhile fun c => !isForbidden c

def endLine? (t : Text) : Option Text :=
  let rest :=
    match skip t with
    | '#' :: r => dropComment r
    | r => r
  match rest with
  | [] => some []
  | '\n' :: r => some r
  | _ => none

def skipLines : Nat → Text → Text
  | 0, t => t
  | fuel + 1, t =>
      match skipSpaces t with
      | '#' :: r => skipLines fuel (dropComment r)
      | r => r

def isForbiddenIn (severalLines : Bool) (c : Char) : Bool :=
  isForbidden c && !(severalLines && c = '\n')

def escaped? : Char → Option Char
  | '"' => some '"'
  | '\\' => some '\\'
  | 'b' => some '\x08'
  | 'f' => some '\x0c'
  | 'n' => some '\n'
  | 'r' => some '\r'
  | 't' => some '\t'
  | _ => none

def takeEscape? (e : Char) (t : Text) : Option (Char × Text) :=
  let byNumber (digits : Nat) : Option (Char × Text) :=
    (Text.takeHex? 0 digits t).bind fun (n, r) => (Text.char? n).map fun c => (c, r)
  if e = 'u' then byNumber 4
  else if e = 'U' then byNumber 8
  else (escaped? e).map fun c => (c, t)

def joinLines? (t : Text) : Option Text :=
  match skip t with
  | '\n' :: r => some (skipSpaces r)
  | _ => none

def takeBasic? (severalLines : Bool) : Nat → Text → Option (Text × Text)
  | 0, _ => none
  | _, [] => none
  | fuel + 1, '"' :: r =>
      if severalLines then
        match Text.after? ['"', '"'] r with
        | some r => some ([], r)
        | none => (takeBasic? severalLines fuel r).map fun (t, r) => ('"' :: t, r)
      else some ([], r)
  | fuel + 1, '\\' :: r =>
      match if severalLines then joinLines? r else none with
      | some r => takeBasic? severalLines fuel r
      | none =>
          match r with
          | [] => none
          | e :: r => do
              let (c, r) ← takeEscape? e r
              let (t, r) ← takeBasic? severalLines fuel r
              return (c :: t, r)
  | fuel + 1, c :: r =>
      if isForbiddenIn severalLines c then none
      else (takeBasic? severalLines fuel r).map fun (t, r) => (c :: t, r)

def takeLiteral? (severalLines : Bool) : Text → Option (Text × Text)
  | [] => none
  | '\'' :: r =>
      if severalLines then
        match Text.after? ['\'', '\''] r with
        | some r => some ([], r)
        | none => (takeLiteral? severalLines r).map fun (t, r) => ('\'' :: t, r)
      else some ([], r)
  | c :: r =>
      if isForbiddenIn severalLines c then none
      else (takeLiteral? severalLines r).map fun (t, r) => (c :: t, r)

def withQuotes (quote : Char) (t r : Text) : Text × Text :=
  let quotes := (r.take 2).takeWhile (· = quote)
  (t ++ quotes, r.drop quotes.length)

def dropFirstBreak : Text → Text
  | '\n' :: r => r
  | t => t

def takeLine? (t : Text) : Option (Text × Text) :=
  match t with
  | '"' :: r => takeBasic? false (r.length + 1) r
  | '\'' :: r => takeLiteral? false r
  | _ => none

def takeString? (t : Text) : Option (Text × Text) :=
  match t with
  | '"' :: '"' :: '"' :: r =>
      (takeBasic? true (r.length + 1) (dropFirstBreak r)).map fun (t, r) => withQuotes '"' t r
  | '\'' :: '\'' :: '\'' :: r =>
      (takeLiteral? true (dropFirstBreak r)).map fun (t, r) => withQuotes '\'' t r
  | t => takeLine? t

def isBareChar (c : Char) : Bool :=
  ('a' ≤ c && c ≤ 'z') || ('A' ≤ c && c ≤ 'Z') || ('0' ≤ c && c ≤ '9') || c = '_' || c = '-'

def takeKeyPart? (t : Text) : Option (Text × Text) :=
  let word := t.takeWhile isBareChar
  if word.isEmpty then takeLine? t else some (word, t.dropWhile isBareChar)

def takeKey? : Nat → Text → Option (List Text × Text)
  | 0, _ => none
  | fuel + 1, t => do
      let (part, r) ← takeKeyPart? (skip t)
      match skip r with
      | '.' :: r =>
          let (parts, r) ← takeKey? fuel r
          return (part :: parts, r)
      | r => some ([part], r)

def takeMoreDigits (worth? : Char → Option Nat) : Text → List Nat × Text
  | [] => ([], [])
  | '_' :: c :: r =>
      match worth? c with
      | none => ([], '_' :: c :: r)
      | some d => let (ds, rest) := takeMoreDigits worth? r; (d :: ds, rest)
  | c :: r =>
      match worth? c with
      | none => ([], c :: r)
      | some d => let (ds, rest) := takeMoreDigits worth? r; (d :: ds, rest)

def takeSpacedDigits (worth? : Char → Option Nat) (t : Text) : List Nat × Text :=
  match t with
  | '_' :: _ => ([], t)
  | _ => takeMoreDigits worth? t

def takeInBase? (base : Nat) (t : Text) : Option (Value × Text) :=
  let (ds, r) := takeSpacedDigits (fun c => (Text.hexDigit? c).filter (· < base)) t
  if ds.isEmpty then none
  else some (.int (ds.foldl (fun n d => n * base + d) 0 : Nat), r)

def takeWhole? (t : Text) : Option (List Nat × Text) :=
  match t with
  | '0' :: r => some ([0], r)
  | _ =>
      let (ds, r) := takeSpacedDigits Text.asciiDigit? t
      if ds.isEmpty then none else some (ds, r)

def takeFraction (t : Text) : List Nat × Text :=
  match t with
  | '.' :: r =>
      let (ds, s) := takeSpacedDigits Text.asciiDigit? r
      if ds.isEmpty then ([], t) else (ds, s)
  | _ => ([], t)

def takeExponent (t : Text) : Option Int × Text :=
  match t with
  | e :: r =>
      let (negative, s) := Decimal.takeSign r
      let (ds, s) := takeSpacedDigits Text.asciiDigit? s
      if (e = 'e' || e = 'E') && !ds.isEmpty then
        let n : Int := Text.digitsValue ds
        (some (if negative then -n else n), s)
      else (none, t)
  | [] => (none, [])

-- Whole numbers are read whatever their length; the program's library reads those of at most 4300
-- digits (`Text.maxDigits`).
def takeDecimal? (t : Text) : Option (Value × Text) := do
  let (negative, r) := Decimal.takeSign t
  let (whole, r) ← takeWhole? r
  let (fraction, r) := takeFraction r
  let (exponent, r) := takeExponent r
  if fraction.isEmpty && exponent.isNone then
    let n : Int := Text.digitsValue whole
    return (.int (if negative then -n else n), r)
  else
    let digits := Text.digitsValue (whole ++ fraction)
    let d : Decimal := ⟨negative, digits, exponent.getD 0 - fraction.length⟩
    return (.float d.toBinary64, r)

def takeNamed? (t : Text) : Option (Value × Text) :=
  let (negative, r) := Decimal.takeSign t
  match Text.after? "inf".toList r with
  | some r => some (.float (.infinity negative), r)
  | none => (Text.after? "nan".toList r).map fun r => (.float .nan, r)

def takeNumber? (t : Text) : Option (Value × Text) :=
  let other : Option (Value × Text) :=
    match t with
    | '0' :: 'x' :: r => takeInBase? 16 r
    | '0' :: 'o' :: r => takeInBase? 8 r
    | '0' :: 'b' :: r => takeInBase? 2 r
    | _ => none
  other.orElse fun _ => (takeDecimal? t).orElse fun _ => takeNamed? t

def takePadded? (digits most : Nat) (t : Text) : Option (Nat × Text) := do
  let ds ← (t.take digits).mapM Text.asciiDigit?
  let n := Text.digitsValue ds
  if ds.length = digits && n ≤ most then return (n, t.drop digits) else none

def takeDate? (t : Text) : Option (Date × Text) := do
  let (year, r) ← takePadded? 4 9999 t
  let (month, r) ← takePadded? 2 12 (← Text.after? ['-'] r)
  let (day, r) ← takePadded? 2 31 (← Text.after? ['-'] r)
  return (← Date.ofNumbers? year month day, r)

def takeClock? (t : Text) : Option (Clock × Text) := do
  let (hour, r) ← takePadded? 2 23 t
  let (minute, r) ← takePadded? 2 59 (← Text.after? [':'] r)
  let (second, r) ← takePadded? 2 59 (← Text.after? [':'] r)
  let isDigit (c : Char) : Bool := (Text.asciiDigit? c).isSome
  match r with
  | '.' :: s =>
      let fraction := s.takeWhile isDigit
      if fraction.isEmpty then return (⟨hour, minute, second, 0⟩, r)
      else return (⟨hour, minute, second, Clock.microseconds fraction⟩, s.dropWhile isDigit)
  | _ => return (⟨hour, minute, second, 0⟩, r)

def takeOffset (t : Text) : Option Int × Text :=
  match t with
  | c :: r =>
      if c = 'Z' || c = 'z' then (some 0, r)
      else if c = '+' || c = '-' then
        let numbers : Option (Int × Text) := do
          let (hour, r) ← takePadded? 2 23 r
          let (minute, r) ← takePadded? 2 59 (← Text.after? [':'] r)
          let total : Int := hour * 60 + minute
          return (if c = '-' then -total else total, r)
        match numbers with
        | some (n, r) => (some n, r)
        | none => (none, t)
      else (none, t)
  | [] => (none, [])

def takeMoment? (t : Text) : Option (Moment × Text) :=
  match takeDate? t with
  | some (d, r) =>
      let clock : Option (Clock × Text) :=
        match r with
        | c :: s => if c = 'T' || c = 't' || c = ' ' then takeClock? s else none
        | [] => none
      match clock with
      | some (c, s) =>
          let (offset, s) := takeOffset s
          some (.dateTime d c offset, s)
      | none => some (.date d, r)
  | none => (takeClock? t).map fun (c, r) => (.time c, r)

end PromptTemplate.Toml

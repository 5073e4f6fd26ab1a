import PromptTemplate.Number.Decimal
import PromptTemplate.Text.Hex
import PromptTemplate.Value

namespace PromptTemplate.Json

def isSpace (c : Char) : Bool :=
  c = ' ' || c = '\t' || c = '\n' || c = '\r'

def skip (t : Text) : Text :=
  t.dropWhile isSpace

def escaped? : Char → Option Char
  | '"' => some '"'
  | '\\' => some '\\'
  | '/' => some '/'
  | 'b' => some '\x08'
  | 'f' => some '\x0c'
  | 'n' => some '\n'
  | 'r' => some '\r'
  | 't' => some '\t'
  | _ => none

def readString : Nat → Text → Option (Text × Text)
  | 0, _ => none
  | _, [] => none
  | _, '"' :: r => some ([], r)
  | fuel + 1, '\\' :: 'u' :: r => do
      let (c, r) ← Text.takeUnit? r
      let (t, r) ← readString fuel r
      return (c :: t, r)
  | fuel + 1, '\\' :: e :: r => do
      let c ← escaped? e
      let (t, r) ← readString fuel r
      return (c :: t, r)
  | fuel + 1, c :: r =>
      if c.toNat < 0x20 || c = '\\' then none
      else do
        let (t, r) ← readString fuel r
        return (c :: t, r)

def takeDigits (t : Text) : Text × Text :=
  let p (c : Char) : Bool := (Text.asciiDigit? c).isSome
  (t.takeWhile p, t.dropWhile p)

def takeFraction (t : Text) : Text × Text :=
  match t with
  | '.' :: r =>
      let (ds, rest) := takeDigits r
      if ds.isEmpty then ([], t) else ('.' :: ds, rest)
  | _ => ([], t)

def takeExponent (t : Text) : Text × Text :=
  match t with
  | e :: r =>
      if e = 'e' || e = 'E' then
        let (sign, r) :=
          match r with
          | '+' :: r => (['+'], r)
          | '-' :: r => (['-'], r)
          | _ => ([], r)
        let (ds, rest) := takeDigits r
        if ds.isEmpty then ([], t) else (e :: sign ++ ds, rest)
      else ([], t)
  | [] => ([], t)

def readNumber (t : Text) : Option (Value × Text) :=
  let (sign, r) :=
    match t with
    | '-' :: r => (['-'], r)
    | _ => ([], t)
  let (whole, r) :=
    match r with
    | '0' :: r => (['0'], r)
    | _ => takeDigits r
  if whole.isEmpty then none
  else
    let (fraction, r) := takeFraction r
    let (exponent, r) := takeExponent r
    let numeral := sign ++ whole ++ fraction ++ exponent
    if fraction.isEmpty && exponent.isEmpty then
      (readInteger? Text.asciiDigit? numeral).map fun n => (.int n, r)
    else (Decimal.read? Text.asciiDigit? numeral).map fun d => (.float d.toBinary64, r)

def words : List (Text × Value) :=
  [("null".toList, .none), ("true".toList, .bool true), ("false".toList, .bool false),
   ("NaN".toList, .float .nan), ("Infinity".toList, .float (.infinity false)),
   ("-Infinity".toList, .float (.infinity true))]

def readWord (t : Text) : List (Text × Value) → Option (Value × Text)
  | [] => none
  | (w, v) :: ws =>
      match Text.after? w t with
      | some r => some (v, r)
      | none => readWord t ws

mutual
def readValue : Nat → Text → Option (Value × Text)
  | 0, _ => none
  | fuel + 1, t =>
      match t with
      | '"' :: r => (readString fuel r).map fun (s, r) => (.text s, r)
      | '[' :: r =>
          match skip r with
          | ']' :: r => some (.list [], r)
          | r => (readItems fuel r).map fun (vs, r) => (.list vs, r)
      | '{' :: r =>
          match skip r with
          | '}' :: r => some (.dict [], r)
          | r => (readMembers fuel r).map fun (ms, r) => (.dict (Assoc.ofList ms), r)
      | _ => (readWord t words).orElse fun _ => readNumber t

def readItems : Nat → Text → Option (List Value × Text)
  | 0, _ => none
  | fuel + 1, t => do
      let (v, r) ← readValue fuel (skip t)
      match skip r with
      | ']' :: r => some ([v], r)
      | ',' :: r =>
          let (vs, r) ← readItems fuel r
          return (v :: vs, r)
      | _ => none

def readMembers : Nat → Text → Option (List (Text × Value) × Text)
  | 0, _ => none
  | fuel + 1, t =>
      match skip t with
      | '"' :: r => do
          let (k, r) ← readString fuel r
          match skip r with
          | ':' :: r => do
              let (v, r) ← readValue fuel (skip r)
              match skip r with
              | '}' :: r => some ([(k, v)], r)
              | ',' :: r =>
                  let (ms, r) ← readMembers fuel r
                  return ((k, v) :: ms, r)
              | _ => none
          | _ => none
      | _ => none
end

def read? (t : Text) : Option Value :=
  match readValue (2 * t.length + 2) (skip t) with
  | some (v, r) => if (skip r).isEmpty then some v else none
  | none => none

def escapeChar (c : Char) : Text :=
  if c = '"' || c = '\\' then ['\\', c]
  else if c = '\n' then ['\\', 'n']
  else if c = '\r' then ['\\', 'r']
  else if c = '\t' then ['\\', 't']
  else if c = '\x08' then ['\\', 'b']
  else if c = '\x0c' then ['\\', 'f']
  else if c.toNat < 0x20 then '\\' :: 'u' :: Text.ofHex 4 c.toNat
  else [c]

def writeString (t : Text) : Text :=
  '"' :: t.flatMap escapeChar ++ ['"']

def writeFloat : Binary64 → Text
  | .nan => "NaN".toList
  | .infinity negative => (if negative then "-Infinity" else "Infinity").toList
  | x => x.toText

def onLines (opening closing : Char) (depth : Nat) (parts : List Text) : Text :=
  if parts.isEmpty then [opening, closing]
  else
    let indent (n : Nat) : Text := '\n' :: List.replicate (2 * n) ' '
    opening :: Text.join [','] (parts.map fun p => indent (depth + 1) ++ p) ++ indent depth ++ [closing]

mutual
def write (depth : Nat) : Value → Text
  | .none => "null".toList
  | .bool b => (if b then "true" else "false").toList
  | .int n => Text.ofInt n
  | .float x => writeFloat x
  | .text t => writeString t
  | .list items => onLines '[' ']' depth (writeItems (depth + 1) items)
  | .tuple items => onLines '[' ']' depth (writeItems (depth + 1) items)
  | .dict entries => onLines '{' '}' depth (writeMembers (depth + 1) entries)
  | .choice label value =>
      onLines '{' '}' depth ["\"label\": ".toList ++ writeString label, "\"value\": ".toList ++ writeString value]
  | .moment m => writeString m.toText
  | .bytes bs => writeString (bs.map fun b => Char.ofNat b.toNat)
  | .set items => onLines '[' ']' depth (writeItems (depth + 1) items)
  | .table entries => onLines '{' '}' depth (writePairs (depth + 1) entries)
  | .ring isMapping => writeString (Value.ring isMapping).plain

def writeItems (depth : Nat) : List Value → List Text
  | [] => []
  | v :: r => write depth v :: writeItems depth r

def writeMembers (depth : Nat) : List (Text × Value) → List Text
  | [] => []
  | (k, v) :: r => (writeString k ++ ':' :: ' ' :: write depth v) :: writeMembers depth r

def writePairs (depth : Nat) : List (Value × Value) → List Text
  | [] => []
  | (k, v) :: r => (writeString k.plain ++ ':' :: ' ' :: write depth v) :: writePairs depth r
end

end PromptTemplate.Json

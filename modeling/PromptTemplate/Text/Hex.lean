import PromptTemplate.Text.Basic

namespace PromptTemplate.Text

def char? (n : Nat) : Option Char :=
  if n.isValidChar then some (Char.ofNat n) else none

def hexDigit? (c : Char) : Option Nat :=
  if '0' ≤ c && c ≤ '9' then some (c.toNat - 0x30)
  else if 'a' ≤ c && c ≤ 'f' then some (c.toNat - 0x57)
  else if 'A' ≤ c && c ≤ 'F' then some (c.toNat - 0x37)
  else none

def takeHex? (acc : Nat) : Nat → Text → Option (Nat × Text)
  | 0, t => some (acc, t)
  | _ + 1, [] => none
  | n + 1, c :: r => (hexDigit? c).bind fun d => takeHex? (acc * 16 + d) n r

def replacementChar : Char := Char.ofNat 0xfffd

def joinHalves (high low : Nat) : Char :=
  Char.ofNat (0x10000 + (high - 0xd800) * 0x400 + (low - 0xdc00))

def charOfUnit (n : Nat) : Char :=
  if 0xd800 ≤ n && n ≤ 0xdfff then replacementChar else Char.ofNat n

def takeUnit? (t : Text) : Option (Char × Text) :=
  (takeHex? 0 4 t).map fun (n, rest) =>
    if 0xd800 ≤ n && n ≤ 0xdbff then
      match rest with
      | '\\' :: 'u' :: r =>
          match takeHex? 0 4 r with
          | some (m, rest') =>
              if 0xdc00 ≤ m && m ≤ 0xdfff then (joinHalves n m, rest') else (replacementChar, rest)
          | none => (replacementChar, rest)
      | _ => (replacementChar, rest)
    else (charOfUnit n, rest)

end PromptTemplate.Text

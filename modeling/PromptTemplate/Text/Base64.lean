import PromptTemplate.Text.Basic

namespace PromptTemplate.Text

def base64Worth? (c : Char) : Option Nat :=
  if 'A' ≤ c && c ≤ 'Z' then some (c.toNat - 0x41)
  else if 'a' ≤ c && c ≤ 'z' then some (c.toNat - 0x61 + 26)
  else if '0' ≤ c && c ≤ '9' then some (c.toNat - 0x30 + 52)
  else if c = '+' then some 62
  else if c = '/' then some 63
  else none

/-- `place` counts the characters of a group so far, `pads` the padding since the last one, and
`left` holds the bits of that one which belong to no byte yet. -/
def base64From? (place pads left : Nat) : Text → Option (List UInt8)
  | [] => if place = 0 then some [] else none
  | c :: r =>
      if c = '=' then
        if 2 ≤ place then
          if 4 ≤ place + pads + 1 then some [] else base64From? place (pads + 1) left r
        else base64From? place pads left r
      else
        match base64Worth? c with
        | none => base64From? place pads left r
        | some w =>
            if place = 0 then base64From? 1 0 w r
            else if place = 1 then
              (base64From? 2 0 (w % 16) r).map ((left * 4 + w / 16).toUInt8 :: ·)
            else if place = 2 then
              (base64From? 3 0 (w % 4) r).map ((left * 16 + w / 4).toUInt8 :: ·)
            else (base64From? 0 0 0 r).map ((left * 64 + w).toUInt8 :: ·)

def ofBase64? (t : Text) : Option (List UInt8) :=
  base64From? 0 0 0 t

end PromptTemplate.Text

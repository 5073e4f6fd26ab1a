import PromptTemplate.Text.Basic

namespace PromptTemplate.Text

inductive Utf8Flaw where
  | start
  | continuation
  | truncated
  deriving DecidableEq, Repr

structure Utf8Error where
  byte : Nat
  first : Nat
  last : Nat
  flaw : Utf8Flaw
  deriving DecidableEq, Repr

namespace Utf8Error

def reason (e : Utf8Error) : Text :=
  match e.flaw with
  | .start => "invalid start byte".toList
  | .continuation => "invalid continuation byte".toList
  | .truncated => "unexpected end of data".toList

def message (e : Utf8Error) : Text :=
  let place :=
    if e.first = e.last then
      "byte 0x".toList ++ ofHex 2 e.byte ++ " in position ".toList ++ ofNat e.first
    else "bytes in position ".toList ++ ofNat e.first ++ '-' :: ofNat e.last
  "'utf-8' codec can't decode ".toList ++ place ++ ':' :: ' ' :: e.reason

end Utf8Error

structure Lead where
  bits : Nat
  count : Nat
  low : Nat
  high : Nat
  deriving DecidableEq, Repr

def lead? (b : Nat) : Option Lead :=
  if b < 0x80 then some ⟨b, 0, 0, 0⟩
  else if 0xc2 ≤ b && b ≤ 0xdf then some ⟨b - 0xc0, 1, 0x80, 0xbf⟩
  else if b = 0xe0 then some ⟨0, 2, 0xa0, 0xbf⟩
  else if b = 0xed then some ⟨b - 0xe0, 2, 0x80, 0x9f⟩
  else if 0xe1 ≤ b && b ≤ 0xef then some ⟨b - 0xe0, 2, 0x80, 0xbf⟩
  else if b = 0xf0 then some ⟨0, 3, 0x90, 0xbf⟩
  else if 0xf1 ≤ b && b ≤ 0xf3 then some ⟨b - 0xf0, 3, 0x80, 0xbf⟩
  else if b = 0xf4 then some ⟨b - 0xf0, 3, 0x80, 0x8f⟩
  else none

structure Pending where
  byte : Nat
  position : Nat
  lead : Lead
  deriving DecidableEq, Repr

def utf8From (position : Nat) (pending : Option Pending) : List UInt8 → Except Utf8Error Text
  | [] =>
      match pending with
      | none => .ok []
      | some p => .error ⟨p.byte, p.position, position - 1, .truncated⟩
  | u :: r =>
      let b := u.toNat
      match pending with
      | none =>
          match lead? b with
          | none => .error ⟨b, position, position, .start⟩
          | some lead =>
              if lead.count = 0 then (utf8From (position + 1) none r).map (Char.ofNat lead.bits :: ·)
              else utf8From (position + 1) (some ⟨b, position, lead⟩) r
      | some p =>
          if p.lead.low ≤ b && b ≤ p.lead.high then
            let bits := p.lead.bits * 64 + (b - 0x80)
            if p.lead.count = 1 then (utf8From (position + 1) none r).map (Char.ofNat bits :: ·)
            else
              utf8From (position + 1)
                (some { p with lead := ⟨bits, p.lead.count - 1, 0x80, 0xbf⟩ }) r
          else .error ⟨p.byte, p.position, position - 1, .continuation⟩

def ofUtf8 (bytes : List UInt8) : Except Utf8Error Text :=
  utf8From 0 none bytes

def toUtf8 (t : Text) : List UInt8 :=
  (String.ofList t).toUTF8.toList

end PromptTemplate.Text

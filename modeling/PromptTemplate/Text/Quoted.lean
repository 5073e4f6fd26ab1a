import PromptTemplate.Text.Printable

namespace PromptTemplate.Text

def quoteFor (t : Text) : Char :=
  if t.contains '\'' && !t.contains '"' then '"' else '\''

def escapeChar (quote c : Char) : Text :=
  if c = quote || c = '\\' then ['\\', c]
  else if c = '\n' then ['\\', 'n']
  else if c = '\r' then ['\\', 'r']
  else if c = '\t' then ['\\', 't']
  else if isPrintable c then [c]
  else
    let n := c.toNat
    if n ≤ 0xff then '\\' :: 'x' :: ofHex 2 n
    else if n ≤ 0xffff then '\\' :: 'u' :: ofHex 4 n
    else '\\' :: 'U' :: ofHex 8 n

def quoted (t : Text) : Text :=
  let q := quoteFor t
  q :: t.flatMap (escapeChar q) ++ [q]

def quotedBytes (bs : List UInt8) : Text :=
  let t := bs.map fun b => Char.ofNat b.toNat
  let q := quoteFor t
  let piece (c : Char) : Text :=
    if c.toNat ≤ 0x7f then escapeChar q c else '\\' :: 'x' :: ofHex 2 c.toNat
  'b' :: q :: t.flatMap piece ++ [q]

end PromptTemplate.Text

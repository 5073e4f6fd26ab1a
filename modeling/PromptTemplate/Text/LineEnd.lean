import PromptTemplate.Text.Basic

namespace PromptTemplate.Text

def normalizeLines : Text → Text
  | [] => []
  | '\r' :: '\n' :: r => '\n' :: normalizeLines r
  | '\r' :: r => '\n' :: normalizeLines r
  | c :: r => c :: normalizeLines r

def joinLineEnds : Text → Text
  | [] => []
  | '\r' :: '\n' :: r => '\n' :: joinLineEnds r
  | c :: r => c :: joinLineEnds r

def linesOf (t : Text) : List Text :=
  match (lines t).reverse with
  | [] :: r => r.reverse
  | _ => lines t

def isLineEnd (c : Char) : Bool :=
  let n := c.toNat
  (0x0a ≤ n && n ≤ 0x0d) || (0x1c ≤ n && n ≤ 0x1e) || n = 0x85 || n = 0x2028 || n = 0x2029

def allLines (t : Text) : List Text :=
  pieces isLineEnd t

end PromptTemplate.Text

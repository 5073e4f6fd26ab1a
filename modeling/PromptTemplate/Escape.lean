import PromptTemplate.Text.Basic

namespace PromptTemplate.Escape

def pairs (brace : Char) : Text → Text
  | [] => []
  | [c] => [c]
  | c :: d :: r =>
      if c = brace && d = brace then '\\' :: c :: d :: pairs brace r else c :: pairs brace (d :: r)

def text (t : Text) : Text :=
  pairs '}' (pairs '{' t)

def unpairs (brace : Char) : Text → Text
  | a :: c :: d :: r =>
      if a = '\\' && c = brace && d = brace then c :: d :: unpairs brace r
      else a :: unpairs brace (c :: d :: r)
  | t => t

def undo (t : Text) : Text :=
  unpairs '}' (unpairs '{' t)

end PromptTemplate.Escape

import PromptTemplate.Text.Basic

namespace PromptTemplate.Yaml

def isBreak (c : Char) : Bool :=
  c = '\n' || c = '\u0085' || c = '\u2028' || c = '\u2029'

def isEnd (c : Char) : Bool :=
  c = '\x00'

def isSpace (c : Char) : Bool :=
  c = ' ' || c = '\t'

def isGap (c : Char) : Bool :=
  isSpace c || isBreak c || isEnd c

def isDigit (c : Char) : Bool :=
  '0' ≤ c && c ≤ '9'

def isWord (c : Char) : Bool :=
  isDigit c || ('a' ≤ c && c ≤ 'z') || ('A' ≤ c && c ≤ 'Z') || c = '_' || c = '-'

def isAllowed (c : Char) : Bool :=
  let n := c.toNat
  n = 0x09 || n = 0x0a || n = 0x0d || (0x20 ≤ n && n ≤ 0x7e) || n = 0x85 ||
    (0xa0 ≤ n && n ≤ 0xd7ff) || (0xe000 ≤ n && n ≤ 0xfffd) || 0x10000 ≤ n

def keptBreak (c : Char) : Char :=
  if c = '\u0085' then '\n' else c

structure Mark where
  char : Char
  line : Nat
  column : Nat
  index : Nat
  deriving Repr

abbrev Marks := List Mark

namespace Marks

def ofTextFrom (line column index : Nat) : Text → Marks
  | [] => [⟨'\x00', line, column, index⟩]
  | c :: r =>
      ⟨c, line, column, index⟩ ::
        if isBreak c then ofTextFrom (line + 1) 0 (index + 1) r
        else ofTextFrom line (column + 1) (index + 1) r

def ofText (t : Text) : Marks :=
  ofTextFrom 0 0 0 t

def charAt (ms : Marks) (i : Nat) : Char :=
  (ms[i]?.map (·.char)).getD '\x00'

def column (ms : Marks) : Nat :=
  (ms.head?.map (·.column)).getD 0

def takeWhile (p : Char → Bool) (ms : Marks) : Text × Marks :=
  ((List.takeWhile (fun m => p m.char) ms).map (·.char), ms.dropWhile fun m => p m.char)

def skip (ms : Marks) : Marks :=
  ms.dropWhile fun m => isSpace m.char

def lineEnd? (ms : Marks) : Option Marks :=
  let ms := ms.skip
  let ms : Marks := if ms.charAt 0 = '#' then ms.dropWhile fun m => !(isBreak m.char || isEnd m.char) else ms
  let c := ms.charAt 0
  if isBreak c then some (ms.drop 1) else if isEnd c then some ms else none

def isDocumentMark (c : Char) (ms : Marks) : Bool :=
  ms.column = 0 && ms.charAt 0 = c && ms.charAt 1 = c && ms.charAt 2 = c && isGap (ms.charAt 3)

def isDocumentEdge (ms : Marks) : Bool :=
  ms.isDocumentMark '-' || ms.isDocumentMark '.'

end Marks

end PromptTemplate.Yaml

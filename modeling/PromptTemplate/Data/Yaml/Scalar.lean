import PromptTemplate.Data.Yaml.Mark
import PromptTemplate.Text.Hex

namespace PromptTemplate.Yaml

inductive Gap where
  | blanks (t : Text)
  | breaks (first : Option Char) (more : Text)
  deriving Repr

namespace Gap

def isBreaks : Gap → Bool
  | .blanks _ => false
  | .breaks .. => true

def isNone : Gap → Bool
  | .blanks t => t.isEmpty
  | .breaks .. => false

def addBlank (c : Char) : Gap → Gap
  | .blanks t => .blanks (t ++ [c])
  | g => g

def addBreak (c : Char) : Gap → Gap
  | .blanks _ => .breaks (some (keptBreak c)) []
  | .breaks first more => .breaks first (more ++ [keptBreak c])

def toText : Gap → Text
  | .blanks t => t
  | .breaks (some '\n') more => if more.isEmpty then [' '] else more
  | .breaks first more => first.toList ++ more

end Gap

structure Plain where
  text : Text
  ended : Bool
  rest : Marks

def isFlowMark (c : Char) : Bool :=
  c = ',' || c = '[' || c = ']' || c = '{' || c = '}'

def endsPlain (flow : Bool) (ms : Marks) : Bool :=
  let c := ms.charAt 0
  isEnd c || (c = ':' && isGap (ms.charAt 1)) || (flow && isFlowMark c)

def isStrayColon (flow : Bool) (ms : Marks) : Bool :=
  flow && ms.charAt 0 = ':' && (isFlowMark (ms.charAt 1) || ms.charAt 1 = '?')

def plainFrom (flow : Bool) (indent : Int) (gap : Gap) : Marks → Option Plain
  | [] => some ⟨[], gap.isBreaks, []⟩
  | m :: r =>
      let c := m.char
      if isSpace c then
        if gap.isBreaks && c = '\t' && (m.column : Int) < indent then none
        else plainFrom flow indent (gap.addBlank c) r
      else if isBreak c then plainFrom flow indent (gap.addBreak c) r
      else if !gap.isNone && ((!flow && (m.column : Int) < indent) || c = '#') then
        some ⟨[], gap.isBreaks, m :: r⟩
      else if Marks.isDocumentEdge (m :: r) then some ⟨[], gap.isBreaks, m :: r⟩
      else if isStrayColon flow (m :: r) then none
      else if endsPlain flow (m :: r) then some ⟨[], gap.isBreaks, m :: r⟩
      else (plainFrom flow indent (.blanks []) r).map fun p =>
        { p with text := gap.toText ++ c :: p.text }

def escaped? : Char → Option Char
  | '0' => some '\x00'
  | 'a' => some '\x07'
  | 'b' => some '\x08'
  | 't' => some '\t'
  | '\t' => some '\t'
  | 'n' => some '\n'
  | 'v' => some '\x0b'
  | 'f' => some '\x0c'
  | 'r' => some '\r'
  | 'e' => some '\x1b'
  | ' ' => some ' '
  | '"' => some '"'
  | '/' => some '/'
  | '\\' => some '\\'
  | 'N' => some '\u0085'
  | '_' => some '\u00a0'
  | 'L' => some '\u2028'
  | 'P' => some '\u2029'
  | _ => none

def escapeDigits? : Char → Option Nat
  | 'x' => some 2
  | 'u' => some 4
  | 'U' => some 8
  | _ => none

inductive Stage where
  | content (gap : Gap)
  | escape
  | digits (left value : Nat)

def doubleFrom : Stage → Marks → Option (Text × Marks)
  | _, [] => none
  | .content gap, m :: r =>
      let c := m.char
      if isSpace c then doubleFrom (.content (gap.addBlank c)) r
      else if isBreak c then doubleFrom (.content (gap.addBreak c)) r
      else if isEnd c || Marks.isDocumentEdge (m :: r) then none
      else if c = '"' then some (gap.toText, r)
      else if c = '\\' then (doubleFrom .escape r).map fun (t, rest) => (gap.toText ++ t, rest)
      else (doubleFrom (.content (.blanks [])) r).map fun (t, rest) => (gap.toText ++ c :: t, rest)
  | .escape, m :: r =>
      if isBreak m.char then doubleFrom (.content (.breaks none [])) r
      else
        match escapeDigits? m.char with
        | some n => doubleFrom (.digits n 0) r
        | none =>
            match escaped? m.char with
            | some c => (doubleFrom (.content (.blanks [])) r).map fun (t, rest) => (c :: t, rest)
            | none => none
  | .digits left value, m :: r =>
      match Text.hexDigit? m.char with
      | none => none
      | some d =>
          let value := value * 16 + d
          if left = 1 then
            match Text.char? value with
            | some c => (doubleFrom (.content (.blanks [])) r).map fun (t, rest) => (c :: t, rest)
            | none => none
          else doubleFrom (.digits (left - 1) value) r

def singleFrom (gap : Gap) : Marks → Option (Text × Marks)
  | [] | [_] => none
  | m :: m' :: r =>
      let c := m.char
      if isSpace c then singleFrom (gap.addBlank c) (m' :: r)
      else if isBreak c then singleFrom (gap.addBreak c) (m' :: r)
      else if isEnd c || Marks.isDocumentEdge (m :: m' :: r) then none
      else if c = '\'' then
        if m'.char = '\'' then
          (singleFrom (.blanks []) r).map fun (t, rest) => (gap.toText ++ '\'' :: t, rest)
        else some (gap.toText, m' :: r)
      else (singleFrom (.blanks []) (m' :: r)).map fun (t, rest) => (gap.toText ++ c :: t, rest)

inductive Chomp where
  | strip
  | clip
  | keep
  deriving DecidableEq, Repr

structure BlockHeader where
  chomp : Chomp
  indent : Option Nat
  deriving Repr

def chomp? (c : Char) : Option Chomp :=
  if c = '+' then some .keep else if c = '-' then some .strip else none

def BlockHeader.read? (ms : Marks) : Option (BlockHeader × Marks) :=
  let first := ms.charAt 0
  let second := ms.charAt 1
  match chomp? first with
  | some chomp =>
      if isDigit second then
        if second = '0' then none else some (⟨chomp, Text.hexDigit? second⟩, ms.drop 2)
      else some (⟨chomp, none⟩, ms.drop 1)
  | none =>
      if isDigit first then
        if first = '0' then none
        else
          match chomp? second with
          | some chomp => some (⟨chomp, Text.hexDigit? first⟩, ms.drop 2)
          | none => some (⟨.clip, Text.hexDigit? first⟩, ms.drop 1)
      else some (⟨.clip, none⟩, ms)

def blockBreaks (indent : Option Nat) : Marks → Option (Text × Nat × Marks)
  | [] => some ([], 0, [])
  | m :: r =>
      let inside : Bool :=
        match indent with
        | none => true
        | some n => m.column < n
      if m.char = ' ' && inside then blockBreaks indent r
      else if m.char = '\t' && inside then none
      else if isBreak m.char then
        (blockBreaks indent r).map fun (t, widest, rest) =>
          (keptBreak m.char :: t, max m.column widest, rest)
      else some ([], m.column, m :: r)

/-- Lines of a block after some others. `before` is the last line end, `breaks` are those of the
empty lines since, and `blank` says whether the line before began with a blank. Answers with the
line ends at the end apart. -/
def blockLines (folded : Bool) (indent : Nat) :
    Nat → Text → Bool → Text → Marks → Option (Text × Text × Text × Marks)
  | 0, before, _, breaks, ms => some ([], before, breaks, ms)
  | fuel + 1, before, blank, breaks, ms =>
      if ms.column ≠ indent || isEnd (ms.charAt 0) then some ([], before, breaks, ms)
      else do
        let here := isSpace (ms.charAt 0)
        let lead : Text :=
          if folded && before = ['\n'] && !blank && !here then (if breaks.isEmpty then [' '] else [])
          else before
        let (line, rest) := ms.takeWhile fun c => !(isBreak c || isEnd c)
        let c := rest.charAt 0
        let (after, rest) := if isBreak c then ([keptBreak c], rest.drop 1) else ([], rest)
        let (more, _, rest) ← blockBreaks (some indent) rest
        let (t, before, last, rest) ← blockLines folded indent fuel after here more rest
        return (lead ++ breaks ++ line ++ t, before, last, rest)

def readBlock (folded : Bool) (outer : Int) (ms : Marks) : Option (Text × Marks) := do
  let (header, ms) ← BlockHeader.read? ms
  let ms ← ms.lineEnd?
  let given : Option Nat := header.indent.map fun n => (max outer 0).toNat + n
  let (breaks, widest, ms) ← blockBreaks given ms
  let indent := given.getD (max widest (max (outer + 1) 1).toNat)
  let (t, last, more, rest) ← blockLines folded indent ms.length [] false breaks ms
  let ending : Text :=
    match header.chomp with
    | .strip => []
    | .clip => last
    | .keep => last ++ more
  return (t ++ ending, rest)

end PromptTemplate.Yaml

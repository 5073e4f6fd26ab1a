import PromptTemplate.Data.Yaml.Scalar
import PromptTemplate.Data.Yaml.Tag

namespace PromptTemplate.Yaml

inductive Token where
  | directive (d : Directive)
  | documentStart
  | documentEnd
  | blockSequence
  | blockMapping
  | blockEnd
  | flowSequence
  | flowSequenceEnd
  | flowMapping
  | flowMappingEnd
  | item
  | comma
  | key
  | value
  | alias (name : Text)
  | anchor (name : Text)
  | tag (name : TagName)
  | scalar (text : Text) ( isPlain : Bool)
  deriving DecidableEq, Repr

structure Candidate where
  token : Nat
  required : Bool
  start : Mark
  deriving Repr

/-- Tokens so far, the last one first, with their number; the indentation of the innermost block and
of those around it; a candidate for each flow and one for the blocks around them, innermost first;
and whether a key may begin here. -/
structure Draft where
  tokens : List Token
  count : Nat
  indent : Int
  outer : List Int
  candidates : List (Option Candidate)
  keyAllowed : Bool

namespace Draft

def start : Draft :=
  ⟨[], 0, -1, [], [none], true⟩

def inFlow (d : Draft) : Bool :=
  1 < d.candidates.length

def push (t : Token) (d : Draft) : Draft :=
  { d with tokens := t :: d.tokens, count := d.count + 1 }

def insert (number : Nat) (t : Token) (d : Draft) : Draft :=
  let (after, before) := d.tokens.splitAt (d.count - number)
  { d with tokens := after ++ t :: before, count := d.count + 1 }

def candidate? (d : Draft) : Option Candidate :=
  d.candidates.head?.join

def setCandidate (c : Option Candidate) (d : Draft) : Draft :=
  { d with candidates := c :: d.candidates.drop 1 }

def allowKey (allowed : Bool) (d : Draft) : Draft :=
  { d with keyAllowed := allowed }

def dropCandidate? (d : Draft) : Option Draft :=
  match d.candidate? with
  | some c => if c.required then none else some (d.setCandidate none)
  | none => some d

def maxKeyLength : Nat := 1024

def isStale (c : Candidate) (here : Mark) : Bool :=
  c.start.line < here.line || c.start.index + maxKeyLength < here.index

def dropStale? (here : Mark) (d : Draft) : Option Draft := do
  let candidates ← d.candidates.mapM fun c =>
    match c with
    | some c => if isStale c here then (if c.required then none else some none) else some (some c)
    | none => some none
  return { d with candidates }

def saveCandidate? (here : Mark) (d : Draft) : Option Draft :=
  if d.keyAllowed then
    d.dropCandidate?.map fun d =>
      d.setCandidate (some ⟨d.count, !d.inFlow && d.indent = here.column, here⟩)
  else some d

def roll (column : Nat) (number : Option Nat) (t : Token) (d : Draft) : Draft :=
  if d.inFlow || (column : Int) ≤ d.indent then d
  else
    let d := { d with indent := column, outer := d.indent :: d.outer }
    match number with
    | some n => d.insert n t
    | none => d.push t

def unrollFrom (column : Int) : List Int → Draft → Draft
  | [], d => d
  | i :: is, d =>
      if column < d.indent then unrollFrom column is { d.push .blockEnd with indent := i, outer := is }
      else d

def unroll (column : Int) (d : Draft) : Draft :=
  if d.inFlow then d else unrollFrom column d.outer d

end Draft

def skipGap (flow : Bool) : Bool → Bool → Marks → Bool × Marks
  | allowed, _, [] => (allowed, [])
  | allowed, comment, m :: r =>
      let c := m.char
      if isBreak c then skipGap flow (allowed || !flow) false r
      else if isEnd c then (allowed, m :: r)
      else if comment then skipGap flow allowed true r
      else if c = ' ' || (c = '\t' && (flow || !allowed)) then skipGap flow allowed false r
      else if c = '\ufeff' && m.column = 0 then skipGap flow allowed false r
      else if c = '#' then skipGap flow allowed true r
      else (allowed, m :: r)

namespace Draft

abbrev Read := Option (Draft × Marks)

def directive (d : Draft) (r : Marks) : Read := do
  let d ← (d.unroll (-1)).dropCandidate?
  let (directive, r) ← takeDirective? r
  return ((d.allowKey false).push (.directive directive), r)

def documentMark (t : Token) (d : Draft) (ms : Marks) : Read := do
  let d ← (d.unroll (-1)).dropCandidate?
  return ((d.allowKey false).push t, ms.drop 3)

def flowStart (t : Token) (here : Mark) (d : Draft) (r : Marks) : Read := do
  let d ← d.saveCandidate? here
  let d := { d with candidates := none :: d.candidates }
  return ((d.allowKey true).push t, r)

def flowEnd (t : Token) (d : Draft) (r : Marks) : Read := do
  let d ← d.dropCandidate?
  let d := if d.inFlow then { d with candidates := d.candidates.drop 1 } else d
  return ((d.allowKey false).push t, r)

def comma (d : Draft) (r : Marks) : Read := do
  let d ← d.dropCandidate?
  return ((d.allowKey true).push .comma, r)

def item (here : Mark) (d : Draft) (r : Marks) : Read := do
  if !d.inFlow && !d.keyAllowed then none
  else
    let d ← (d.roll here.column none .blockSequence).dropCandidate?
    return ((d.allowKey true).push .item, r)

def key (here : Mark) (d : Draft) (r : Marks) : Read := do
  if !d.inFlow && !d.keyAllowed then none
  else
    let d ← (d.roll here.column none .blockMapping).dropCandidate?
    return ((d.allowKey !d.inFlow).push .key, r)

def value (here : Mark) (d : Draft) (r : Marks) : Read :=
  match d.candidate? with
  | some c =>
      let d := (d.insert c.token .key).roll c.start.column (some c.token) .blockMapping
      some (((d.setCandidate none).allowKey false).push .value, r)
  | none =>
      if !d.inFlow && !d.keyAllowed then none
      else
        let d := d.roll here.column none .blockMapping
        some ((d.allowKey !d.inFlow).push .value, r)

def part (here : Mark) (d : Draft) (read : Option (Token × Marks)) : Read := do
  let d ← d.saveCandidate? here
  let (t, r) ← read
  return ((d.allowKey false).push t, r)

def block (folded : Bool) (d : Draft) (r : Marks) : Read := do
  let d ← d.dropCandidate?
  let (t, r) ← readBlock folded d.indent r
  return ((d.allowKey true).push (.scalar t false), r)

def plain (here : Mark) (d : Draft) (ms : Marks) : Read := do
  let d ← d.saveCandidate? here
  let p ← plainFrom d.inFlow (d.indent + 1) (.blanks []) ms
  return ((d.allowKey p.ended).push (.scalar p.text true), p.rest)

def isIndicator (c : Char) : Bool :=
  isFlowMark c ||
    ['-', '?', ':', '#', '&', '*', '!', '|', '>', '\'', '"', '%', '@', Char.ofNat 0x60].contains c

def startsPlain (flow : Bool) (c next : Char) : Bool :=
  !(isGap c || isIndicator c) || (c = '-' && !isSpace next) ||
    (!flow && (c = '?' || c = ':') && !isGap next)

def read (here : Mark) (d : Draft) (r : Marks) : Read :=
  let ms : Marks := here :: r
  let c := here.char
  let alone := isGap (r.charAt 0)
  let flow := d.inFlow
  let quoted (t : Option (Text × Marks)) : Option (Token × Marks) :=
    t.map fun (t, r) => (.scalar t false, r)
  if here.column = 0 && c = '%' then d.directive r
  else if ms.isDocumentMark '-' then d.documentMark .documentStart ms
  else if ms.isDocumentMark '.' then d.documentMark .documentEnd ms
  else if c = '[' then d.flowStart .flowSequence here r
  else if c = '{' then d.flowStart .flowMapping here r
  else if c = ']' then d.flowEnd .flowSequenceEnd r
  else if c = '}' then d.flowEnd .flowMappingEnd r
  else if c = ',' then d.comma r
  else if c = '-' && alone then d.item here r
  else if c = '?' && (flow || alone) then d.key here r
  else if c = ':' && (flow || alone) then d.value here r
  else if c = '*' then d.part here ((takeAnchor? ms).map fun (t, r) => (.alias t, r))
  else if c = '&' then d.part here ((takeAnchor? ms).map fun (t, r) => (.anchor t, r))
  else if c = '!' then d.part here ((takeTag? flow ms).map fun (t, r) => (.tag t, r))
  else if c = '|' && !flow then d.block false r
  else if c = '>' && !flow then d.block true r
  else if c = '\'' then d.part here (quoted (singleFrom (.blanks []) r))
  else if c = '"' then d.part here (quoted (doubleFrom (.content (.blanks [])) r))
  else if startsPlain flow c (r.charAt 0) then d.plain here ms
  else none

def finish (d : Draft) : Option (List Token) :=
  ((d.unroll (-1)).dropCandidate?).map fun d => d.tokens.reverse

def run : Nat → Draft → Marks → Option (List Token)
  | 0, _, _ => none
  | fuel + 1, d, ms =>
      match skipGap d.inFlow d.keyAllowed false ms with
      | (_, []) => none
      | (allowed, here :: r) => do
          let d ← (d.allowKey allowed).dropStale? here
          let d := d.unroll here.column
          if isEnd here.char then d.finish
          else
            let (d, rest) ← d.read here r
            run fuel d rest

end Draft

def tokens? (t : Text) : Option (List Token) :=
  if t.all isAllowed then Draft.run (t.length + 1) .start (Marks.ofText t) else none

end PromptTemplate.Yaml

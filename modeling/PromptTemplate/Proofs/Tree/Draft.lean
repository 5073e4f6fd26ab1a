import PromptTemplate.Tree

namespace PromptTemplate

namespace Body

def onto : Body → Body → Body
  | .nil, b => b
  | .text i c s r, b => onto r (.text i c s b)
  | .variable i k s r, b => onto r (.variable i k s b)
  | .block i o s c e h a r, b => onto r (.block i o s c e h a b)

def reverse (b : Body) : Body :=
  onto b .nil

end Body

structure Layer where
  id : Nat
  opening : Opening
  span : Span
  consequent : Body
  elseSpan : Option Span
  hasAlternate : Bool
  alternate : Body
  deriving DecidableEq, Repr

namespace Layer

def add (l : Layer) (piece : Body → Body) : Layer :=
  if l.hasAlternate then { l with alternate := piece l.alternate }
  else { l with consequent := piece l.consequent }

def close (l : Layer) (stop : Nat) (rest : Body) : Body :=
  .block l.id l.opening ⟨l.span.start, stop⟩ l.consequent.reverse l.elseSpan l.hasAlternate
    l.alternate.reverse rest

end Layer

/-- A tree under construction, nested from the start: the number of the next node, the finished
siblings at top level, last first, and the open blocks, innermost first. -/
structure Draft where
  next : Nat
  top : Body
  layers : List Layer
  deriving DecidableEq, Repr

namespace Draft

def start : Draft :=
  ⟨1, .nil, []⟩

def add (d : Draft) (piece : Body → Body) : Draft :=
  match d.layers with
  | [] => { d with top := piece d.top }
  | l :: ls => { d with layers := l.add piece :: ls }

def step (limit : Int) (d : Draft) : Token → Except ParseError Draft
  | .text content span => .ok { d.add (.text d.next content span) with next := d.next + 1 }
  | .tag (.variable key) span => .ok { d.add (.variable d.next key span) with next := d.next + 1 }
  | .tag (.opening o) span =>
      if limit ≤ d.layers.length then .error (.tooDeep limit span)
      else .ok { d with
        next := d.next + 1
        layers := ⟨d.next, o, span, .nil, none, false, .nil⟩ :: d.layers }
  | .tag .otherwise span =>
      match d.layers with
      | [] => .error (.elseOutside span)
      | l :: ls =>
          if l.hasAlternate then .error (.secondElse l.opening span)
          else .ok { d with layers := { l with elseSpan := some span, hasAlternate := true } :: ls }
  | .tag (.closing helper) span =>
      match d.layers with
      | [] => .error (.unmatchedEnd helper span)
      | l :: ls =>
          if l.opening.helper = helper then .ok ({ d with layers := ls }.add (l.close span.stop))
          else .error (.mismatchedEnd l.opening.helper helper span)

def run (limit : Int) : Draft → List Token → Except ParseError Draft
  | d, [] => .ok d
  | d, t :: ts =>
      match step limit d t with
      | .ok d => run limit d ts
      | .error e => .error e

def finish (d : Draft) : Except ParseError Body :=
  match d.layers with
  | [] => .ok d.top.reverse
  | l :: _ => .error (.unclosed l.opening l.span)

def parse (limit : Int) (tokens : List Token) : Except ParseError Body :=
  match run limit .start tokens with
  | .ok d => d.finish
  | .error e => .error e

end Draft

end PromptTemplate

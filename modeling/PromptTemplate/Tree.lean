import PromptTemplate.Token

namespace PromptTemplate

inductive Node where
  | root (span : Span) (children : List Nat)
  | text (id : Nat) (content : Text) (span : Span)
  | variable (id : Nat) (key : Text) (span : Span)
  | block (id : Nat) (opening : Opening) (span : Span) (consequent : List Nat)
      (elseSpan : Option Span) (alternate : Option (List Nat))
  deriving DecidableEq, Repr

namespace Node

def rootId : Nat := 0
def rootHelper : Text := "root".toList

def id : Node → Nat
  | .root .. => rootId
  | .text i .. => i
  | .variable i .. => i
  | .block i .. => i

end Node

inductive ParseError where
  | unclosed (opening : Opening) (span : Span)
  | unmatchedEnd (helper : Helper) (span : Span)
  | secondElse (opening : Opening) (span : Span)
  | mismatchedEnd (opened closed : Helper) (span : Span)
  | elseOutside (span : Span)
  | tooDeep (limit : Int) (span : Span)
  deriving DecidableEq, Repr

namespace ParseError

def span : ParseError → Span
  | .unclosed _ s => s
  | .unmatchedEnd _ s => s
  | .secondElse _ s => s
  | .mismatchedEnd _ _ s => s
  | .elseOutside s => s
  | .tooDeep _ s => s

def kind : ParseError → Text
  | .unclosed .. => "UnmatchedBlockStart".toList
  | .unmatchedEnd .. => "UnmatchedBlockEnd".toList
  | .secondElse .. => "MultipleElse".toList
  | .mismatchedEnd .. => "MismatchedBlockEnd".toList
  | .elseOutside .. => "ElseOutsideBlock".toList
  | .tooDeep .. => "NestingTooDeep".toList

def details : ParseError → Text
  | .unclosed o _ => '#' :: o.helper.name ++ ' ' :: o.key ++ " is never closed".toList
  | .unmatchedEnd h _ => "\x7b\x7b/".toList ++ h.name ++ "\x7d\x7d has no matching opening tag".toList
  | .secondElse o _ => "second \x7b\x7belse\x7d\x7d in #".toList ++ o.helper.name ++ ' ' :: o.key
  | .mismatchedEnd opened closed _ => '#' :: opened.name ++ " closed by /".toList ++ closed.name
  | .elseOutside _ => "\x7b\x7belse\x7d\x7d outside of any block".toList
  | .tooDeep limit _ => "blocks nested deeper than ".toList ++ Text.ofInt limit ++ " levels".toList

def message (e : ParseError) : Text :=
  e.kind ++ " at ".toList ++ Text.ofNat e.span.start ++ "..".toList ++ Text.ofNat e.span.stop ++
    ": ".toList ++ e.details

end ParseError

structure Frame where
  id : Nat
  opening : Opening
  span : Span
  consequent : Array Nat
  alternate : Option (Array Nat)
  elseSpan : Option Span
  deriving DecidableEq, Repr

namespace Frame

def name (f : Frame) (id : Nat) : Frame :=
  match f.alternate with
  | some ids => { f with alternate := some (ids.push id) }
  | none => { f with consequent := f.consequent.push id }

def close (f : Frame) (stop : Nat) : Node :=
  .block f.id f.opening ⟨f.span.start, stop⟩ f.consequent.toList f.elseSpan
    (f.alternate.map Array.toList)

end Frame

/-- A tree under construction: a slot for each node, the children of the root, and the open blocks,
innermost first. The slot of a block is empty until its closing tag comes, that of the root until
the end. -/
structure Arena where
  slots : Array (Option Node)
  top : Array Nat
  frames : List Frame
  deriving DecidableEq, Repr

namespace Arena

def start : Arena :=
  ⟨#[none], #[], []⟩

def name (a : Arena) (id : Nat) : Arena :=
  match a.frames with
  | [] => { a with top := a.top.push id }
  | f :: fs => { a with frames := f.name id :: fs }

def add (a : Arena) (slot : Option Node) : Arena :=
  { a.name a.slots.size with slots := a.slots.push slot }

def step (limit : Int) (a : Arena) : Token → Except ParseError Arena
  | .text content span => .ok (a.add (some (.text a.slots.size content span)))
  | .tag (.variable key) span => .ok (a.add (some (.variable a.slots.size key span)))
  | .tag (.opening o) span =>
      if limit ≤ a.frames.length then .error (.tooDeep limit span)
      else
        let reserved := a.add none
        .ok { reserved with frames := ⟨a.slots.size, o, span, #[], none, none⟩ :: reserved.frames }
  | .tag .otherwise span =>
      match a.frames with
      | [] => .error (.elseOutside span)
      | f :: fs =>
          if f.alternate.isSome then .error (.secondElse f.opening span)
          else .ok { a with
            frames := { f with alternate := some #[], elseSpan := some span } :: fs }
  | .tag (.closing helper) span =>
      match a.frames with
      | [] => .error (.unmatchedEnd helper span)
      | f :: fs =>
          if f.opening.helper = helper then
            .ok { a with
              slots := a.slots.setIfInBounds f.id (some (f.close span.stop))
              frames := fs }
          else .error (.mismatchedEnd f.opening.helper helper span)

def run (limit : Int) : Arena → List Token → Except ParseError Arena
  | a, [] => .ok a
  | a, t :: ts =>
      match step limit a t with
      | .ok a => run limit a ts
      | .error e => .error e

def finish (a : Arena) (source : Text) : Except ParseError (Array (Option Node)) :=
  match a.frames with
  | [] =>
      let root := Node.root ⟨0, source.length⟩ a.top.toList
      .ok (a.slots.setIfInBounds Node.rootId (some root))
  | f :: _ => .error (.unclosed f.opening f.span)

def parse (limit : Int) (tokens : List Token) (source : Text) :
    Except ParseError (Array (Option Node)) :=
  match run limit .start tokens with
  | .ok a => a.finish source
  | .error e => .error e

end Arena

/-- A row of siblings: text, variables and blocks in document order. The `alternate` of a block
without one is empty. -/
inductive Body where
  | nil
  | text (id : Nat) (content : Text) (span : Span) (rest : Body)
  | variable (id : Nat) (key : Text) (span : Span) (rest : Body)
  | block (id : Nat) (opening : Opening) (span : Span) (consequent : Body)
      (elseSpan : Option Span) (hasAlternate : Bool) (alternate : Body) (rest : Body)
  deriving DecidableEq, Repr

namespace Body

def size : Body → Nat
  | .nil => 0
  | .text _ _ _ r => size r + 1
  | .variable _ _ _ r => size r + 1
  | .block _ _ _ c _ _ a r => size c + size a + size r + 1

/-- The siblings with these numbers. They hold no more nodes than there are slots, which is how much
`fuel` is needed. -/
def read (slots : Array (Option Node)) : Nat → List Nat → Body
  | _, [] => .nil
  | 0, _ => .nil
  | fuel + 1, i :: is =>
      let rest := read slots fuel is
      match slots[i]?.join with
      | some (.text id content span) => .text id content span rest
      | some (.variable id key span) => .variable id key span rest
      | some (.block id o span consequent elseSpan alternate) =>
          .block id o span (read slots fuel consequent) elseSpan alternate.isSome
            (read slots fuel (alternate.getD [])) rest
      | _ => rest

def ofSlots (slots : Array (Option Node)) : Body :=
  match slots[Node.rootId]?.join with
  | some (.root _ children) => read slots slots.size children
  | _ => .nil

def ofTokens (limit : Int) (tokens : List Token) (source : Text) : Except ParseError Body :=
  (Arena.parse limit tokens source).map ofSlots

end Body

structure Tree where
  source : Text
  body : Body
  deriving DecidableEq, Repr

namespace Tree

def defaultDepth : Int := 64

def parse (limit : Int) (source : Text) : Except ParseError Tree :=
  (Body.ofTokens limit (Token.tokenize source) source).map fun body => ⟨source, body⟩

def size (t : Tree) : Nat :=
  t.body.size + 1

def span (t : Tree) : Span :=
  ⟨0, t.source.length⟩

end Tree

end PromptTemplate

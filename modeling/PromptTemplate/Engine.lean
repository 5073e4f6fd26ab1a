import PromptTemplate.Evaluation
import PromptTemplate.Settings

namespace PromptTemplate

def Text.byteSize (t : Text) : Nat :=
  t.total Char.utf8Size

structure Engine where
  settings : Settings
  operators : OperatorTable

structure AnnotatedRoot where
  id : Nat
  span : Span
  helper : Text
  key : Text
  inverted : Bool
  comparison : Option Comparison
  value : Bool
  resolved : Bool
  visible : Bool
  taken : Bool
  children : Annotated
  alternate : Option Annotated
  error : Option ComparisonError
  elseSpan : Option Span
  deriving Repr

structure Preview where
  source : Text
  root : AnnotatedRoot
  deriving Repr

def Preview.children (p : Preview) : Annotated :=
  p.root.children

inductive EngineError where
  | template (e : TemplateError)
  | fault (f : NumeralFault)
  deriving DecidableEq, Repr

namespace Engine

def default : Engine :=
  ⟨.default, .builtin⟩

def parse (e : Engine) (template : Text) : Except TemplateError Tree :=
  let size := template.byteSize
  if e.settings.maxBytes < size then .error (.tooLarge size e.settings.maxBytes)
  else
    match Tree.parse e.settings.maxDepth template with
    | .ok tree => .ok tree
    | .error x => .error (.malformed x)

def setting (e : Engine) (context : Assoc Value) (index : Index) : Setting :=
  ⟨⟨context, index, e.settings.format⟩, e.operators⟩

end Engine

namespace Tree

def annotatedRoot (t : Tree) (children : Annotated) : AnnotatedRoot where
  id := Node.rootId
  span := t.span
  helper := Node.rootHelper
  key := []
  inverted := false
  comparison := none
  value := true
  resolved := true
  visible := true
  taken := true
  children := children
  alternate := none
  error := none
  elseSpan := none

def preview (t : Tree) (children : Annotated) : Preview :=
  ⟨t.source, t.annotatedRoot children⟩

def parsed (t : Tree) : Event :=
  .parsed (Token.tokenize t.source).length t.size

end Tree

namespace Progress

def journal (p : Progress) : Journal :=
  ⟨p.coercions, p.undecided.map fun (key, e) => .undecided key e⟩

end Progress

namespace Setting

def renderTree (s : Setting) (t : Tree) : Except NumeralFault Text × Journal :=
  match s.render t.body .empty with
  | .ok (text, p) => (.ok text, p.journal)
  | .error h => (.error h.fault, h.progress.journal)

def annotateTree (s : Setting) (t : Tree) : Except NumeralFault Preview × Journal :=
  match s.annotate true t.body .empty with
  | .ok (a, p) => (.ok (t.preview a), p.journal)
  | .error h => (.error h.fault, h.progress.journal)

end Setting

namespace Engine

def render (e : Engine) (template : Text) (context : Assoc Value) (index : Index) :
    Except EngineError Text × Journal :=
  match e.parse template with
  | .error x =>
      if e.settings.fallback then (.ok template, .ofEvents [.unrendered x])
      else (.error (.template x), .empty)
  | .ok tree =>
      let (result, journal) := (e.setting context index).renderTree tree
      (result.mapError .fault, .ofEvents [tree.parsed] ++ journal)

def annotate (e : Engine) (template : Text) (context : Assoc Value) (index : Index) :
    Except EngineError Preview × Journal :=
  match e.parse template with
  | .error x => (.error (.template x), .empty)
  | .ok tree =>
      let (result, journal) := (e.setting context index).annotateTree tree
      (result.mapError .fault, .ofEvents [tree.parsed] ++ journal)

end Engine

end PromptTemplate

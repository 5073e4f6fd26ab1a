import PromptTemplate.Definition
import PromptTemplate.Escape

namespace PromptTemplate

inductive Coercion where
  | sequence (type : VariableType) (key : Text)
  | scalar (type : VariableType) (key : Text)
  | unsupported (type : Text) (key : Option Text)
  deriving DecidableEq, Repr

def Coercion.message : Coercion → Text
  | .sequence type key =>
      "Sequence supplied for ".toList ++ type.name ++ " variable '".toList ++ key ++ ['\'']
  | .scalar type key =>
      "Scalar supplied for ".toList ++ type.name ++ " variable '".toList ++ key ++ ['\'']
  | .unsupported type key =>
      "Unsupported value type ".toList ++ type ++ " for '".toList ++ key.getD ['?'] ++ ['\'']

namespace Value

def isSupportedScalar : Value → Bool
  | .bool _ | .int _ | .float _ | .text _ => true
  | _ => false

def toText (definition : Option Definition) (fallback : SequenceFormat) (v : Value) : Text :=
  let format := (definition.bind (·.format)).getD fallback
  match v with
  | .list items => format.serialize items
  | .tuple items => format.serialize items
  | v => v.scalarText

def coercions (definition : Option Definition) (v : Value) : List Coercion :=
  if v.isSequence then
    match definition with
    | some d => if d.isSequence then [] else [.sequence d.type d.key]
    | Option.none => []
  else
    let shape : List Coercion :=
      match definition with
      | some d => if d.isSequence && !v.isEmpty then [.scalar d.type d.key] else []
      | Option.none => []
    let type : List Coercion :=
      if v.isSupportedScalar then [] else [.unsupported v.typeName (definition.map (·.key))]
    shape ++ type

mutual
def escape : Value → Value
  | .text t => .text (Escape.text t)
  | .list items => .list (escapeItems items)
  | .tuple items => .list (escapeItems items)
  | v => v

def escapeItems : List Value → List Value
  | [] => []
  | v :: r => escape v :: escapeItems r
end

end Value

inductive DisplayState where
  | explicit
  | default
  | unresolved
  deriving DecidableEq, Repr

def DisplayState.name : DisplayState → Text
  | .explicit => "hasExplicitValue".toList
  | .default => "usingDefault".toList
  | .unresolved => "unresolvedPlaceholder".toList

/-- `text` is what conditions look at, `display` what is put into the template. -/
structure Resolved where
  key : Text
  raw : Value
  text : Text
  display : Text
  state : DisplayState
  deriving Repr

namespace Resolved

def isResolved (r : Resolved) : Bool :=
  r.state ≠ .unresolved

def isExplicit (r : Resolved) : Bool :=
  r.state = .explicit

def usesDefault (r : Resolved) : Bool :=
  r.state = .default

def truthy (r : Resolved) : Bool :=
  r.raw.truthy

def comparisonText (r : Resolved) : Text :=
  if r.isResolved then r.text else []

end Resolved

def placeholder (key : Text) : Text :=
  '{' :: '{' :: key ++ ['}', '}']

structure Scope where
  context : Assoc Value
  index : Index
  format : SequenceFormat

namespace Scope

def definition? (s : Scope) (key : Text) : Option Definition :=
  s.index.get? key

def value? (s : Scope) (key : Text) : Option (Value × DisplayState) :=
  match (s.context.get? key).filter fun v => !v matches .none with
  | some v => some (v, .explicit)
  | none => ((s.definition? key).bind (·.default)).map fun p => (p.toValue, .default)

def isBare (v : Value) (state : DisplayState) : Bool :=
  state = .explicit && v.isEmpty

def resolve (s : Scope) (key : Text) : Resolved :=
  match s.value? key with
  | none => ⟨key, .none, placeholder key, placeholder key, .unresolved⟩
  | some (v, state) =>
      if isBare v state then ⟨key, v, [], [], state⟩
      else
        let toText := Value.toText (s.definition? key) s.format
        ⟨key, v, toText v, toText v.escape, state⟩

def coercions (s : Scope) (key : Text) : List Coercion :=
  match s.value? key with
  | none => []
  | some (v, state) => if isBare v state then [] else v.coercions (s.definition? key)

end Scope

end PromptTemplate

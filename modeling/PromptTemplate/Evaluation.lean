import PromptTemplate.Operator
import PromptTemplate.Tree

namespace PromptTemplate

structure Setting where
  scope : Scope
  operators : OperatorTable

structure Progress where
  resolved : Assoc Resolved
  coercions : List Coercion
  undecided : List (Text × ComparisonError)
  deriving Repr

def Progress.empty : Progress :=
  ⟨[], [], []⟩

structure Halt where
  fault : NumeralFault
  progress : Progress
  deriving Repr

structure Outcome where
  value : Bool
  error : Option ComparisonError
  deriving DecidableEq, Repr

def Outcome.shows (o : Outcome) (opening : Opening) : Bool :=
  o.value != opening.inverted

namespace Setting

def resolve (s : Setting) (key : Text) (p : Progress) : Resolved × Progress :=
  match p.resolved.get? key with
  | some r => (r, p)
  | none =>
      let r := s.scope.resolve key
      (r, { p with
        resolved := p.resolved ++ [(key, r)]
        coercions := p.coercions ++ s.scope.coercions key })

def resolve? (s : Setting) (key : Option Text) (p : Progress) : Option Resolved × Progress :=
  match key with
  | none => (none, p)
  | some key => let (r, p) := s.resolve key p; (some r, p)

def condition (s : Setting) (o : Opening) (p : Progress) : Except Halt (Outcome × Progress) :=
  let (left, p) := s.resolve o.key p
  match o.comparison with
  | none => .ok (⟨left.truthy, none⟩, p)
  | some c =>
      let (right, p) := s.resolve? c.other p
      match c.evaluate s.operators left right with
      | .ok b => .ok (⟨b, none⟩, p)
      | .error (.undecided e) =>
          .ok (⟨false, some e⟩, { p with undecided := p.undecided ++ [(o.key, e)] })
      | .error (.fault f) => .error ⟨f, p⟩

def render (s : Setting) : Body → Progress → Except Halt (Text × Progress)
  | .nil, p => .ok ([], p)
  | .text _ content _ rest, p => do
      let (t, p) ← render s rest p
      return (content ++ t, p)
  | .variable _ key _ rest, p => do
      let (r, p) := s.resolve key p
      let (t, p) ← render s rest p
      return (r.display ++ t, p)
  | .block _ o _ consequent _ hasAlternate alternate rest, p => do
      let (outcome, p) ← s.condition o p
      let (inner, p) ←
        if outcome.shows o then render s consequent p
        else if hasAlternate then render s alternate p
        else .ok ([], p)
      let (t, p) ← render s rest p
      return (inner ++ t, p)

end Setting

/-- A body with the values its nodes were given. Both branches of a block are kept; a node is
visible if all branches around it are shown. -/
inductive Annotated where
  | nil
  | text (id : Nat) (content : Text) (span : Span) (visible : Bool) (rest : Annotated)
  | variable (id : Nat) (label : Text) (resolved : Resolved) (span : Span) (visible : Bool)
      (rest : Annotated)
  | block (id : Nat) (opening : Opening) (span : Span) (outcome : Outcome) (resolved : Bool)
      (visible : Bool) (consequentTaken : Bool) (consequent : Annotated) (elseSpan : Option Span)
      (hasAlternate : Bool) (alternateTaken : Bool) (alternate : Annotated) (rest : Annotated)
  deriving Repr

namespace Setting

def label (s : Setting) (key : Text) : Text :=
  match s.scope.definition? key with
  | some d => d.label
  | none => key

def annotate (s : Setting) (visible : Bool) : Body → Progress → Except Halt (Annotated × Progress)
  | .nil, p => .ok (.nil, p)
  | .text id content span rest, p => do
      let (a, p) ← annotate s visible rest p
      return (.text id content span visible a, p)
  | .variable id key span rest, p => do
      let (r, p) := s.resolve key p
      let (a, p) ← annotate s visible rest p
      return (.variable id (s.label key) r span visible a, p)
  | .block id o span consequent elseSpan hasAlternate alternate rest, p => do
      let (outcome, p) ← s.condition o p
      let first := outcome.shows o
      let second := !first && hasAlternate
      let (c, p) ← annotate s (visible && first) consequent p
      let (d, p) ← annotate s (visible && second) alternate p
      let (a, p) ← annotate s visible rest p
      return (.block id o span outcome first visible first c elseSpan hasAlternate second d a, p)

end Setting

namespace Annotated

inductive Item where
  | text (id : Nat) (content : Text) (span : Span) (visible : Bool)
  | variable (id : Nat) (label : Text) (resolved : Resolved) (span : Span) (visible : Bool)
  | block (id : Nat) (opening : Opening) (span : Span) (outcome : Outcome) (resolved : Bool)
      (visible : Bool) (consequentTaken : Bool) (elseSpan : Option Span) (hasAlternate : Bool)
      (alternateTaken : Bool)
  deriving Repr

def Item.id : Item → Nat
  | .text i .. => i
  | .variable i .. => i
  | .block i .. => i

def Item.visible : Item → Bool
  | .text _ _ _ v => v
  | .variable _ _ _ _ v => v
  | .block _ _ _ _ _ v _ _ _ _ => v

def Item.keys : Item → List Text
  | .text .. => []
  | .variable _ _ r _ _ => [r.key]
  | .block _ o _ _ _ _ _ _ _ _ => o.key :: (o.comparison.bind (·.other)).toList

def walk : Annotated → List Item
  | .nil => []
  | .text i c s v rest => .text i c s v :: walk rest
  | .variable i l r s v rest => .variable i l r s v :: walk rest
  | .block i o s out b v f c e h g d rest =>
      .block i o s out b v f e h g :: (walk c ++ walk d ++ walk rest)

def visibleText : Annotated → Text
  | .nil => []
  | .text _ c _ _ rest => c ++ visibleText rest
  | .variable _ _ r _ _ rest => r.display ++ visibleText rest
  | .block _ _ _ _ _ _ f c _ _ g d rest =>
      (if f then visibleText c else if g then visibleText d else []) ++ visibleText rest

def keys (a : Annotated) : List Text :=
  Text.distinct (a.walk.flatMap Item.keys)

end Annotated

end PromptTemplate

import PromptTemplate.Value

namespace PromptTemplate

inductive SequenceFormat where
  | comma
  | newline
  | numbered
  | bullet
  deriving DecidableEq, Repr

namespace SequenceFormat

def all : List SequenceFormat :=
  [.comma, .newline, .numbered, .bullet]

def name : SequenceFormat → Text
  | .comma => "comma".toList
  | .newline => "newline".toList
  | .numbered => "numbered".toList
  | .bullet => "bullet".toList

def ofName? (t : Text) : Option SequenceFormat :=
  all.find? fun f => f.name = t

theorem ofName?_name (f : SequenceFormat) : ofName? f.name = some f := by
  cases f <;> decide

def numberedFrom (i : Nat) : List Text → List Text
  | [] => []
  | t :: ts => (Text.ofNat i ++ '.' :: ' ' :: t) :: numberedFrom (i + 1) ts

def marked : SequenceFormat → List Text → List Text
  | .comma, ts => ts
  | .newline, ts => ts
  | .numbered, ts => numberedFrom 1 ts
  | .bullet, ts => ts.map fun t => '-' :: ' ' :: t

def separator : SequenceFormat → Text
  | .comma => [',', ' ']
  | _ => ['\n']

def joinTexts (f : SequenceFormat) (ts : List Text) : Text :=
  Text.join f.separator (f.marked ts)

def serialize (f : SequenceFormat) (items : List Value) : Text :=
  f.joinTexts (items.map Value.scalarText)

def ofValue (v : Value) : Except Text SequenceFormat :=
  if v.isVoid then .ok .comma
  else
    let unknown := v.quoted ++ " is not a valid SerializationFormat".toList
    match v with
    | .text t =>
        match ofName? t with
        | some f => .ok f
        | none => .error unknown
    | _ => .error unknown

end SequenceFormat

end PromptTemplate

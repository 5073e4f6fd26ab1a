import PromptTemplate.Number.Decimal
import PromptTemplate.Resolution
import PromptTemplate.Tag

namespace PromptTemplate

inductive OperandKind where
  | text
  | number
  | truthiness
  | sequence
  deriving DecidableEq, Repr

namespace OperandKind

def all : List OperandKind :=
  [.text, .number, .truthiness, .sequence]

def name : OperandKind → Text
  | .text => "text".toList
  | .number => "number".toList
  | .truthiness => "truthiness".toList
  | .sequence => "sequence".toList

def ofName? (t : Text) : Option OperandKind :=
  all.find? fun k => k.name = t

end OperandKind

inductive Operand where
  | text (t : Text)
  | number (x : Binary64)
  | truth (b : Bool)
  | value (v : Value)
  deriving Repr

namespace Operand

def same : Operand → Operand → Bool
  | .text a, .text b => a = b
  | .number x, .number y => x.same y
  | .truth a, .truth b => a = b
  | .value (.text a), .text b => a = b
  | _, _ => false

def lt : Operand → Operand → Bool
  | .text a, .text b => Text.lt a b
  | .number x, .number y => x.lt y
  | .truth a, .truth b => !a && b
  | .value (.text a), .text b => Text.lt a b
  | _, _ => false

def le (a b : Operand) : Bool :=
  lt a b || same a b

def gt : Operand → Operand → Bool
  | .text a, .text b => Text.lt b a
  | .number x, .number y => y.lt x
  | .truth a, .truth b => a && !b
  | .value (.text a), .text b => Text.lt b a
  | _, _ => false

def ge (a b : Operand) : Bool :=
  gt a b || same a b

def holds : Operand → Bool
  | .text t => !t.isEmpty
  | .number (.finite _ m _) => m ≠ 0
  | .number _ => true
  | .truth b => b
  | .value v => !v.isVoid

def contains : Operand → Operand → Bool
  | .value (.list items), .text t => items.any fun v => v.scalarText = t
  | .value (.tuple items), .text t => items.any fun v => v.scalarText = t
  | _, _ => false

end Operand

/-- `arity` counts the key of the block as well. -/
structure Operator where
  name : Text
  kind : OperandKind
  arity : Nat
  compare : List Operand → Bool

namespace Operator

def numeric (o : Operator) : Bool :=
  o.kind = .number

def binary (f : Operand → Operand → Bool) : List Operand → Bool
  | [a, b] => f a b
  | _ => false

def unary (f : Operand → Bool) : List Operand → Bool
  | [a] => f a
  | _ => false

def builtin : List Operator :=
  [⟨"eq".toList, .text, 2, binary Operand.same⟩,
   ⟨"ne".toList, .text, 2, binary fun a b => !a.same b⟩,
   ⟨"gt".toList, .number, 2, binary Operand.gt⟩,
   ⟨"gte".toList, .number, 2, binary Operand.ge⟩,
   ⟨"lt".toList, .number, 2, binary Operand.lt⟩,
   ⟨"lte".toList, .number, 2, binary Operand.le⟩,
   ⟨"contains".toList, .sequence, 2, binary Operand.contains⟩,
   ⟨"and".toList, .truthiness, 2, binary fun a b => a.holds && b.holds⟩,
   ⟨"or".toList, .truthiness, 2, binary fun a b => a.holds || b.holds⟩,
   ⟨"not".toList, .truthiness, 1, unary fun a => !a.holds⟩]

end Operator

abbrev OperatorTable := Assoc Operator

namespace OperatorTable

def ofOperators (os : List Operator) : OperatorTable :=
  Assoc.ofList (os.map fun o => (o.name, o))

def builtin : OperatorTable :=
  ofOperators Operator.builtin

end OperatorTable

inductive ComparisonError where
  | unknownOperator (name : Text)
  | literalGiven (op : Text)
  | literalMissing (op : Text)
  | wrongCount (op : Text) (expected given : Nat)
  | notANumber (text : Text)
  | notFinite (text : Text)
  deriving DecidableEq, Repr

namespace ComparisonError

def kind : ComparisonError → Text
  | .unknownOperator _ => "UnknownOperator".toList
  | .literalGiven _ | .literalMissing _ | .wrongCount .. => "OperandMismatch".toList
  | .notANumber _ | .notFinite _ => "InvalidComparisonOperand".toList

def details : ComparisonError → Text
  | .unknownOperator name => "no operator named ".toList ++ name.quoted
  | .literalGiven op => op ++ " takes variables, not a literal".toList
  | .literalMissing op => op ++ " needs a quoted literal".toList
  | .wrongCount op expected given =>
      op ++ " takes ".toList ++ Text.ofNat expected ++ " operand(s), got ".toList ++
        Text.ofNat given
  | .notANumber text => text.quoted ++ " is not a number".toList
  | .notFinite text => text.quoted ++ " is not a finite number".toList

def message (e : ComparisonError) : Text :=
  e.kind ++ ':' :: ' ' :: e.details

end ComparisonError

/-- A numeral that is well formed but touches a blank that no numeral may touch. Unlike an
undecided condition it ends the whole evaluation. -/
structure NumeralFault where
  text : Text
  deriving DecidableEq, Repr

def NumeralFault.message (f : NumeralFault) : Text :=
  "could not convert string to float: ".toList ++ f.text.quoted

inductive Failure where
  | undecided (e : ComparisonError)
  | fault (f : NumeralFault)
  deriving DecidableEq, Repr

def readNumber (t : Text) : Except Failure Binary64 :=
  match Decimal.read? Text.digit? (Text.strip t) with
  | none => .error (.undecided (.notANumber t))
  | some d =>
      if t.any Text.isSeparator then .error (.fault ⟨t⟩)
      else
        let x := d.toBinary64
        if x.isFinite then .ok x else .error (.undecided (.notFinite t))

namespace Comparison

def operands (c : Comparison) (op : Operator) (left : Resolved) (right : Option Resolved) :
    Except Failure (List Operand) :=
  match op.kind, c.literal with
  | .truthiness, some _ => .error (.undecided (.literalGiven op.name))
  | .truthiness, none =>
      .ok (.truth left.truthy :: right.toList.map fun r => .truth r.truthy)
  | _, none => .error (.undecided (.literalMissing op.name))
  | .number, some literal => do
      let x ← readNumber left.comparisonText
      let y ← readNumber literal
      return [.number x, .number y]
  | .sequence, some literal => .ok [.value left.raw, .text literal]
  | .text, some literal => .ok [.text left.comparisonText, .text literal]

def evaluate (c : Comparison) (table : OperatorTable) (left : Resolved) (right : Option Resolved) :
    Except Failure Bool :=
  match table.get? c.op with
  | none => .error (.undecided (.unknownOperator c.op))
  | some op => do
      let operands ← c.operands op left right
      if operands.length = op.arity then return op.compare operands
      else .error (.undecided (.wrongCount op.name op.arity operands.length))

end Comparison

end PromptTemplate

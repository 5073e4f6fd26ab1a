import PromptTemplate.SequenceFormat

namespace PromptTemplate

inductive VariableType where
  | text
  | textarea
  | select
  | number
  | slider
  | array
  | multiSelect
  deriving DecidableEq, Repr

namespace VariableType

def all : List VariableType :=
  [.text, .textarea, .select, .number, .slider, .array, .multiSelect]

def name : VariableType → Text
  | .text => "text".toList
  | .textarea => "textarea".toList
  | .select => "select".toList
  | .number => "number".toList
  | .slider => "slider".toList
  | .array => "array".toList
  | .multiSelect => "multi-select".toList

def ofName? (t : Text) : Option VariableType :=
  all.find? fun v => v.name = t

theorem ofName?_name (v : VariableType) : ofName? v.name = some v := by
  cases v <;> decide

def isSequence : VariableType → Bool
  | .array | .multiSelect => true
  | _ => false

def needsOptions : VariableType → Bool
  | .select | .multiSelect => true
  | _ => false

end VariableType

inductive Preset where
  | text (t : Text)
  | int (n : Int)
  | float (x : Binary64)
  | texts (ts : List Text)
  deriving DecidableEq, Repr

def Preset.toValue : Preset → Value
  | .text t => .text t
  | .int n => .int n
  | .float x => .float x
  | .texts ts => .list (ts.map Value.text)

structure Choice where
  label : Text
  value : Text
  deriving DecidableEq, Repr

structure Definition where
  key : Text
  label : Text
  type : VariableType
  default : Option Preset
  format : Option SequenceFormat
  options : Option (List Choice)
  required : Bool
  placeholder : Option Text
  description : Option Text
  preview : Option Preset
  min : Option Binary64
  max : Option Binary64
  step : Option Binary64
  deriving DecidableEq, Repr

namespace Definition

def isSequence (d : Definition) : Bool :=
  d.type.isSequence

def optionValues (d : Definition) : List Text :=
  (d.options.getD []).map (·.value)

def plain (key label : Text) : Definition where
  key := key
  label := label
  type := .text
  default := none
  format := none
  options := none
  required := false
  placeholder := none
  description := none
  preview := none
  min := none
  max := none
  step := none

end Definition

abbrev Index := Assoc Definition

/-- Of several definitions with one key the first counts. -/
def Index.ofDefinitions (ds : List Definition) : Index :=
  Assoc.firsts (ds.map fun d => (d.key, d))

theorem Definition.get?_keyed (ds : List Definition) (key : Text) :
    Assoc.get? key (ds.map fun d => (d.key, d)) = ds.find? fun d => d.key = key := by
  induction ds with
  | nil => rfl
  | cons d ds ih => by_cases h : d.key = key <;> simp [Assoc.get?, h, ih]

theorem Index.get?_ofDefinitions (ds : List Definition) (key : Text) :
    (ofDefinitions ds).get? key = ds.find? fun d => d.key = key := by
  rw [ofDefinitions, Assoc.get?_firsts, Definition.get?_keyed]

end PromptTemplate

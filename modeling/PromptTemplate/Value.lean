import PromptTemplate.Assoc
import PromptTemplate.Calendar
import PromptTemplate.Number.Shortest
import PromptTemplate.Text.Quoted

namespace PromptTemplate

/-- What can be supplied for a variable, or stand in a file of data. A mapping whose keys are not
all texts is a table. A ring is a list or a mapping inside itself. -/
inductive Value where
  | none
  | bool (b : Bool)
  | int (n : Int)
  | float (x : Binary64)
  | text (t : Text)
  | list (items : List Value)
  | tuple (items : List Value)
  | dict (entries : List (Text × Value))
  | choice (label value : Text)
  | moment (m : Moment)
  | bytes (bs : List UInt8)
  | set (items : List Value)
  | table (entries : List (Value × Value))
  | ring ( isMapping : Bool)
  deriving Repr

namespace Value

def isSequence : Value → Bool
  | .list _ | .tuple _ => true
  | _ => false

def truthy : Value → Bool
  | .none => false
  | .bool b => b
  | .text t => !t.isEmpty
  | .list items => !items.isEmpty
  | .tuple items => !items.isEmpty
  | _ => true

def isVoid : Value → Bool
  | .none => true
  | .bool b => !b
  | .int n => n = 0
  | .float (.finite _ m _) => m = 0
  | .float _ => false
  | .text t => t.isEmpty
  | .list items => items.isEmpty
  | .tuple items => items.isEmpty
  | .dict entries => entries.isEmpty
  | .choice .. => false
  | .moment _ => false
  | .bytes bs => bs.isEmpty
  | .set items => items.isEmpty
  | .table entries => entries.isEmpty
  | .ring _ => false

def isEmpty : Value → Bool
  | .text t => t.isEmpty
  | .list items => items.isEmpty
  | .tuple items => items.isEmpty
  | _ => false

def textEntries? : Value → Option (Assoc Value)
  | .dict entries => some entries
  | .table entries =>
      some (entries.filterMap fun (k, v) =>
        match k with
        | .text t => some (t, v)
        | _ => Option.none)
  | .ring true => some []
  | _ => Option.none

def typeName : Value → Text
  | .none => "NoneType".toList
  | .bool _ => "bool".toList
  | .int _ => "int".toList
  | .float _ => "float".toList
  | .text _ => "str".toList
  | .list _ => "list".toList
  | .tuple _ => "tuple".toList
  | .dict _ => "dict".toList
  | .choice .. => "SelectOption".toList
  | .moment m => m.typeName
  | .bytes _ => "bytes".toList
  | .set _ => "set".toList
  | .table _ => "dict".toList
  | .ring isMapping => (if isMapping then "dict" else "list").toList

mutual
def quoted : Value → Text
  | .none => "None".toList
  | .bool b => (if b then "True" else "False").toList
  | .int n => Text.ofInt n
  | .float x => x.toText
  | .text t => t.quoted
  | .list items => '[' :: Text.join ", ".toList (quotedItems items) ++ [']']
  | .tuple items =>
      '(' :: Text.join ", ".toList (quotedItems items) ++
        (if items.length = 1 then [',', ')'] else [')'])
  | .dict entries => '{' :: Text.join ", ".toList (quotedEntries entries) ++ ['}']
  | .choice label value =>
      "SelectOption(label=".toList ++ label.quoted ++ ", value=".toList ++ value.quoted ++ [')']
  | .moment m => m.quoted
  | .bytes bs => Text.quotedBytes bs
  | .set items =>
      if items.isEmpty then "set()".toList
      else '{' :: Text.join ", ".toList (quotedItems items) ++ ['}']
  | .table entries => '{' :: Text.join ", ".toList (quotedPairs entries) ++ ['}']
  | .ring isMapping => (if isMapping then "\x7b...\x7d" else "[...]").toList

def quotedItems : List Value → List Text
  | [] => []
  | v :: r => quoted v :: quotedItems r

def quotedEntries : List (Text × Value) → List Text
  | [] => []
  | (k, v) :: r => (k.quoted ++ ':' :: ' ' :: quoted v) :: quotedEntries r

def quotedPairs : List (Value × Value) → List Text
  | [] => []
  | (k, v) :: r => (quoted k ++ ':' :: ' ' :: quoted v) :: quotedPairs r
end

def plain : Value → Text
  | .text t => t
  | .choice label value => "label=".toList ++ label.quoted ++ " value=".toList ++ value.quoted
  | .moment m => m.toText
  | v => quoted v

def scalarText : Value → Text
  | .bool b => (if b then "true" else "false").toList
  | .float x =>
      match x.integer? with
      | some n => Text.ofInt n
      | Option.none => x.toText
  | v => plain v

end Value

end PromptTemplate

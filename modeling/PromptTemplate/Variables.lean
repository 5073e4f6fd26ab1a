import PromptTemplate.Definition.Validation
import PromptTemplate.Token

namespace PromptTemplate

namespace Text

/-- Whether a text can name a variable: like the key of a definition, but one line end may follow. -/
def isVariableKey (t : Text) : Bool :=
  match t.reverse with
  | '\n' :: r => Definition.isKey r.reverse
  | _ => Definition.isKey t

def capitalize : Text → Text
  | [] => []
  | c :: r => upperChar c ++ lower r

def labelOfKey (key : Text) : Text :=
  join [' '] ((pieces (fun c => c == '-' || c == '_') key).map capitalize)

end Text

namespace Token

def variableKeys (template : Text) : List Text :=
  Text.distinct (((tokenize template).flatMap keys).filter Text.isVariableKey)

end Token

namespace Definition

/-- Definitions for the keys of a template in its order. Of several given definitions with one key
the last is kept; a key without one gets a plain text variable. -/
def sync (definitions : List Definition) (template : Text) : List Definition :=
  let byKey := Assoc.ofList (definitions.map fun d => (d.key, d))
  (Token.variableKeys template).map fun key =>
    (byKey.get? key).getD (plain key (Text.labelOfKey key))

def unknown (key : Text) : Value :=
  .dict [("key".toList, .text key), ("label".toList, .text (Text.labelOfKey key)),
    ("type".toList, .text VariableType.text.name)]

/-- As `sync`, each new definition having to pass validation. -/
def syncRead (definitions : List Definition) (template : Text) : Checked (List Definition) :=
  let byKey := Assoc.ofList (definitions.map fun d => (d.key, d))
  (Token.variableKeys template).mapM fun key =>
    match byKey.get? key with
    | some d => .ok d
    | none => ofValue (unknown key)

def shown (d : Definition) : Option Preset :=
  d.preview.orElse fun _ => d.default

def entriesBy (f : Definition → Option Preset) (definitions : List Definition) : Assoc Value :=
  Assoc.ofList (definitions.filterMap fun d => (f d).map fun p => (d.key, p.toValue))

def previewValues (definitions : List Definition) : Assoc Value :=
  entriesBy shown definitions

def defaultValues (definitions : List Definition) : Assoc Value :=
  entriesBy (·.default) definitions

end Definition

end PromptTemplate

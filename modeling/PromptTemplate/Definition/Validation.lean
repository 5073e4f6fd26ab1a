import PromptTemplate.Definition
import PromptTemplate.Number.Decimal
import PromptTemplate.Text.Case
import PromptTemplate.Text.Utf8

namespace PromptTemplate

inductive Flaw where
  | notAMapping
  | missing
  | notText
  | unreadableText
  | badKey
  | emptyText
  | unknownType
  | unknownFormat
  | unreadableFlag
  | notAFlag
  | unreadableNumber
  | notANumber
  | unreadableInteger
  | notAnInteger
  | notAList
  | rule (text : Text)
  deriving DecidableEq, Repr

namespace Flaw

def code : Flaw → Text
  | .notAMapping => "model_type".toList
  | .missing => "missing".toList
  | .notText => "string_type".toList
  | .unreadableText => "string_unicode".toList
  | .badKey => "string_pattern_mismatch".toList
  | .emptyText => "string_too_short".toList
  | .unknownType | .unknownFormat => "enum".toList
  | .unreadableFlag => "bool_parsing".toList
  | .notAFlag => "bool_type".toList
  | .unreadableNumber => "float_parsing".toList
  | .notANumber => "float_type".toList
  | .unreadableInteger => "int_parsing".toList
  | .notAnInteger => "int_type".toList
  | .notAList => "list_type".toList
  | .rule _ => "value_error".toList

def oneOf : List Text → Text
  | [] => []
  | [a] => '\'' :: a ++ ['\'']
  | [a, b] => '\'' :: a ++ "' or '".toList ++ b ++ ['\'']
  | a :: r => '\'' :: a ++ "', ".toList ++ oneOf r

def message : Flaw → Text
  | .notAMapping => "Input should be a valid dictionary or instance of VariableDefinition".toList
  | .missing => "Field required".toList
  | .notText => "Input should be a valid string".toList
  | .unreadableText =>
      "Input should be a valid string, unable to parse raw data as a unicode string".toList
  | .badKey => "String should match pattern '^[A-Za-z0-9_-]\x7b1,50\x7d$'".toList
  | .emptyText => "String should have at least 1 character".toList
  | .unknownType => "Input should be ".toList ++ oneOf (VariableType.all.map VariableType.name)
  | .unknownFormat =>
      "Input should be ".toList ++ oneOf (SequenceFormat.all.map SequenceFormat.name)
  | .unreadableFlag => "Input should be a valid boolean, unable to interpret input".toList
  | .notAFlag => "Input should be a valid boolean".toList
  | .unreadableNumber =>
      "Input should be a valid number, unable to parse string as a number".toList
  | .notANumber => "Input should be a valid number".toList
  | .unreadableInteger =>
      "Input should be a valid integer, unable to parse string as an integer".toList
  | .notAnInteger => "Input should be a valid integer".toList
  | .notAList => "Input should be a valid list".toList
  | .rule text => "Value error, ".toList ++ text

end Flaw

inductive Step where
  | name (t : Text)
  | index (i : Nat)
  deriving DecidableEq, Repr

structure Issue where
  flaw : Flaw
  path : List Step
  deriving DecidableEq, Repr

namespace Issue

def messages (issues : List Issue) : Text :=
  Text.join "; ".toList (issues.map fun i => i.flaw.message)

end Issue

abbrev Checked (α : Type) := Except (List Issue) α

namespace Checked

def issues {α : Type} : Checked α → List Issue
  | .ok _ => []
  | .error is => is

def fail {α : Type} (flaw : Flaw) (path : List Step) : Checked α :=
  .error [⟨flaw, path⟩]

end Checked

namespace Definition

def isKeyChar (c : Char) : Bool :=
  ('a' ≤ c && c ≤ 'z') || ('A' ≤ c && c ≤ 'Z') || ('0' ≤ c && c ≤ '9') || c = '_' || c = '-'

def maxKeyLength : Nat := 50

def isKey (t : Text) : Bool :=
  !t.isEmpty && t.length ≤ maxKeyLength && t.all isKeyChar

def readBytes : Value → Value
  | .bytes bs =>
      match Text.ofUtf8 bs with
      | .ok t => .text t
      | .error _ => .bytes bs
  | v => v

def textFlaw : Value → Flaw
  | .bytes _ => .unreadableText
  | _ => .notText

def checkKey (path : List Step) : Option Value → Checked Text
  | none => .fail .missing path
  | some (.text t) => if isKey t then .ok t else .fail .badKey path
  | some v => .fail (textFlaw v) path

def checkLabel (path : List Step) : Option Value → Checked Text
  | none => .fail .missing path
  | some (.text t) => if t.isEmpty then .fail .emptyText path else .ok t
  | some v => .fail (textFlaw v) path

def checkType (path : List Step) : Option Value → Checked VariableType
  | none => .ok .text
  | some (.text t) =>
      match VariableType.ofName? t with
      | some type => .ok type
      | none => .fail .unknownType path
  | some _ => .fail .unknownType path

def checkFormat (path : List Step) : Option Value → Checked (Option SequenceFormat)
  | none | some .none => .ok none
  | some (.text t) =>
      match SequenceFormat.ofName? t with
      | some f => .ok (some f)
      | none => .fail .unknownFormat path
  | some _ => .fail .unknownFormat path

def checkText (path : List Step) : Option Value → Checked (Option Text)
  | none | some .none => .ok none
  | some (.text t) => .ok (some t)
  | some v => .fail (textFlaw v) path

def trueWords : List Text :=
  ["1", "on", "t", "true", "y", "yes"].map String.toList

def falseWords : List Text :=
  ["0", "off", "f", "false", "n", "no"].map String.toList

def wordLimit : Int := 9223372036854775808

def flagOfInt (path : List Step) (n : Int) : Checked Bool :=
  if n = 0 then .ok false
  else if n = 1 then .ok true
  else if -wordLimit ≤ n && n < wordLimit then .fail .unreadableFlag path
  else .fail .notAFlag path

def checkFlag (path : List Step) : Option Value → Checked Bool
  | none => .ok false
  | some (.bool b) => .ok b
  | some (.int n) => flagOfInt path n
  | some (.float x) =>
      match x.integer? with
      | some n => if -wordLimit < n then flagOfInt path n else .fail .notAFlag path
      | none => .fail .notAFlag path
  | some (.text t) =>
      if trueWords.contains t.lower then .ok true
      else if falseWords.contains t.lower then .ok false
      else .fail .unreadableFlag path
  | some (.bytes _) => .fail .unreadableFlag path
  | some _ => .fail .notAFlag path

def literalNumber? (t : Text) : Option Binary64 :=
  match Decimal.read? Text.asciiDigit? t with
  | some d => some d.toBinary64
  | none => Binary64.ofName? t

def numberInText? (t : Text) : Option Binary64 :=
  match literalNumber? (Text.stripNumeral t) with
  | some x => some x
  | none =>
      let parts := Text.pieces (· == '_') t
      if parts.length = 1 || parts.any List.isEmpty then none else literalNumber? parts.flatten

def checkNumber (path : List Step) : Option Value → Checked (Option Binary64)
  | none | some .none => .ok none
  | some (.float x) => .ok (some x)
  | some (.bool b) => .ok (some (if b then .one else .zero))
  | some (.int n) =>
      let x := Binary64.ofInt n
      if x.isFinite then .ok (some x) else .fail .notANumber path
  | some (.text t) =>
      match numberInText? t with
      | some x => .ok (some x)
      | none => .fail .unreadableNumber path
  | some (.bytes _) => .fail .unreadableNumber path
  | some _ => .fail .notANumber path

def checkTexts (path : List Step) (i : Nat) : List Value → List Text × List Issue
  | [] => ([], [])
  | v :: r =>
      let (ts, is) := checkTexts path (i + 1) r
      match readBytes v with
      | .text t => (t :: ts, is)
      | v => (ts, ⟨textFlaw v, path ++ [.index i]⟩ :: is)

def scalarIssues (path : List Step) (text integer number : Flaw) : List Issue :=
  [⟨text, path ++ [.name "str".toList]⟩, ⟨integer, path ++ [.name "int".toList]⟩,
   ⟨number, path ++ [.name "float".toList]⟩]

def notScalar (path : List Step) : List Issue :=
  scalarIssues path .notText .notAnInteger .notANumber

def listStep : Step := .name "list[str]".toList

def checkTextList (path : List Step) (items : List Value) : Checked (Option Preset) :=
  let (ts, is) := checkTexts (path ++ [listStep]) 0 items
  if is.isEmpty then .ok (some (.texts ts)) else .error (notScalar path ++ is)

def checkPreset (path : List Step) : Option Value → Checked (Option Preset)
  | none | some .none => .ok none
  | some (.text t) => .ok (some (.text t))
  | some (.int n) => .ok (some (.int n))
  | some (.bool b) => .ok (some (.int (if b then 1 else 0)))
  | some (.float x) => .ok (some (.float x))
  | some (.list items) => checkTextList path items
  | some (.tuple items) => checkTextList path items
  | some (.set items) => checkTextList path items
  | some (.bytes _) =>
      .error (scalarIssues path .unreadableText .unreadableInteger .unreadableNumber ++
        [⟨.notAList, path ++ [listStep]⟩])
  | some _ =>
      .error (notScalar path ++ [⟨.notAList, path ++ [listStep]⟩])

def labelStep : Step := .name "label".toList
def valueStep : Step := .name "value".toList

def checkChoice (path : List Step) (label value : Value) : Checked Choice :=
  match readBytes label, readBytes value with
  | .text l, .text v => .ok ⟨l, v⟩
  | .text _, v => .fail (textFlaw v) (path ++ [valueStep])
  | l, .text _ => .fail (textFlaw l) (path ++ [labelStep])
  | l, v => .error [⟨textFlaw l, path ++ [labelStep]⟩, ⟨textFlaw v, path ++ [valueStep]⟩]

def choiceOfValue (path : List Step) : Value → Checked Choice
  | .text t => .ok ⟨t, t⟩
  | .choice label value => .ok ⟨label, value⟩
  | v =>
      let entry (name : String) : Option Value := v.textEntries?.bind (Assoc.get? name.toList)
      match entry "value" with
      | some value => checkChoice path ((entry "label").getD value) value
      | none => .ok ⟨v.plain, v.plain⟩

def checkChoices (path : List Step) (i : Nat) : List Value → List Choice × List Issue
  | [] => ([], [])
  | v :: r =>
      let (cs, is) := checkChoices path (i + 1) r
      match choiceOfValue (path ++ [.index i]) v with
      | .ok c => (c :: cs, is)
      | .error es => (cs, es ++ is)

def checkChoiceList (path : List Step) (items : List Value) : Checked (Option (List Choice)) :=
  let (cs, is) := checkChoices path 0 items
  if is.isEmpty then .ok (some cs) else .error is

def checkOptions (path : List Step) : Option Value → Checked (Option (List Choice))
  | none | some .none => .ok none
  | some (.list items) => checkChoiceList path items
  | some (.tuple items) => checkChoiceList path items
  | some _ => .fail (.rule "options must be a list".toList) path

def brokenRule? (d : Definition) : Option Text :=
  if d.type.needsOptions && (d.options.getD []).isEmpty then
    some (d.type.name ++ " type requires at least one option".toList)
  else
    let slider : Option Text :=
      if d.type = .slider then
        match d.min, d.max with
        | some low, some high =>
            if high.le low then some "slider min must be less than max".toList
            else
              match d.step with
              | some step =>
                  if step.le .zero then some "slider step must be a positive number".toList
                  else none
              | none => none
        | _, _ => some "slider type requires min and max".toList
      else none
    match slider with
    | some t => some t
    | none =>
        if d.format.isSome && !d.isSequence then
          some "format is only valid for array and multi-select types".toList
        else none

def checkRules (d : Definition) : Checked Definition :=
  match brokenRule? d with
  | some t => .fail (.rule t) []
  | none => .ok d

def ofEntries (entries : Assoc Value) : Checked Definition :=
  let field {α : Type} (check : List Step → Option Value → Checked α) (name : String) : Checked α :=
    check [.name name.toList] ((entries.get? name.toList).map readBytes)
  let key := field checkKey "key"
  let label := field checkLabel "label"
  let type := field checkType "type"
  let default := field checkPreset "default"
  let format := field checkFormat "format"
  let options := field checkOptions "options"
  let required := field checkFlag "required"
  let placeholder := field checkText "placeholder"
  let description := field checkText "description"
  let preview := field checkPreset "preview"
  let min := field checkNumber "min"
  let max := field checkNumber "max"
  let step := field checkNumber "step"
  match key, label, type, default, format, options, required, placeholder, description, preview,
    min, max, step with
  | .ok key, .ok label, .ok type, .ok default, .ok format, .ok options, .ok required,
    .ok placeholder, .ok description, .ok preview, .ok min, .ok max, .ok step =>
      checkRules { key, label, type, default, format, options, required, placeholder, description,
                   preview, min, max, step }
  | _, _, _, _, _, _, _, _, _, _, _, _, _ =>
      .error (key.issues ++ label.issues ++ type.issues ++ default.issues ++ format.issues ++
        options.issues ++ required.issues ++ placeholder.issues ++ description.issues ++
        preview.issues ++ min.issues ++ max.issues ++ step.issues)

def ofValue (v : Value) : Checked Definition :=
  match v.textEntries? with
  | some entries => ofEntries entries
  | none => .fail .notAMapping []

end Definition

end PromptTemplate

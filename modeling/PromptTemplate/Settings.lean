import PromptTemplate.Journal
import PromptTemplate.Text.Case
import PromptTemplate.Text.Utf8

namespace PromptTemplate

structure Settings where
  maxBytes : Nat
  maxDepth : Nat
  format : SequenceFormat
  fallback : Bool
  deriving DecidableEq, Repr

inductive SettingsError where
  | maxBytes
  | maxDepth
  | format (found : Text)
  | fallback
  | twoSources
  | missingFile (path : Text)
  | notATable (path : Text)
  | unreadable (path details : Text)
  | unwritable (path details : Text)
  | encoding (e : Text.Utf8Error)
  deriving DecidableEq, Repr

def SettingsError.message : SettingsError → Text
  | .maxBytes => "max_template_bytes must be a positive integer".toList
  | .maxDepth => "max_nesting_depth must be a positive integer".toList
  | .format found =>
      "default_format must be one of: ".toList ++
        Text.join ", ".toList (SequenceFormat.all.map SequenceFormat.name) ++ " (got ".toList ++
        found ++ [')']
  | .fallback => "fallback_on_error must be a boolean".toList
  | .twoSources => "Cannot specify both config_path and config_dict".toList
  | .missingFile path => "Config file not found: ".toList ++ path
  | .notATable path => "[engine] must be a table in ".toList ++ path
  | .unreadable path details =>
      "Failed to load TOML from ".toList ++ path ++ ':' :: ' ' :: details
  | .unwritable path details =>
      "Failed to write TOML config to ".toList ++ path ++ ':' :: ' ' :: details
  | .encoding e => e.message

namespace Settings

def default : Settings :=
  ⟨102400, 64, .comma, true⟩

def maxBytesKey : Text := "max_template_bytes".toList
def maxDepthKey : Text := "max_nesting_depth".toList
def formatKey : Text := "default_format".toList
def fallbackKey : Text := "fallback_on_error".toList

def keys : List Text :=
  [maxBytesKey, maxDepthKey, formatKey, fallbackKey]

def toTable (s : Settings) : Assoc Value :=
  [(maxBytesKey, .int s.maxBytes), (maxDepthKey, .int s.maxDepth),
   (formatKey, .text s.format.name), (fallbackKey, .bool s.fallback)]

def positive? : Value → Option Nat
  | .int n => if 0 < n then some n.toNat else none
  | _ => none

def format? : Value → Option SequenceFormat
  | .text t => SequenceFormat.ofName? t
  | _ => none

def flag? : Value → Option Bool
  | .bool b => some b
  | _ => none

def ofTable? (table : Assoc Value) : Except SettingsError Settings :=
  let entry (key : Text) : Value := ((table.get? key).orElse fun _ => default.toTable.get? key).getD .none
  match positive? (entry maxBytesKey) with
  | none => .error .maxBytes
  | some maxBytes =>
  match positive? (entry maxDepthKey) with
  | none => .error .maxDepth
  | some maxDepth =>
  match format? (entry formatKey) with
  | none => .error (.format (entry formatKey).quoted)
  | some format =>
  match flag? (entry fallbackKey) with
  | none => .error .fallback
  | some fallback => .ok ⟨maxBytes, maxDepth, format, fallback⟩

def unknownKeys (table : Assoc Value) : List Text :=
  Text.sorted ((table.keys.filter fun k => !keys.contains k).eraseDups)

end Settings

abbrev Environment := Assoc Text

namespace Environment

def maxBytes : Text := "PROMPTWEAVE_MAX_TEMPLATE_BYTES".toList
def maxDepth : Text := "PROMPTWEAVE_MAX_NESTING_DEPTH".toList
def format : Text := "PROMPTWEAVE_DEFAULT_FORMAT".toList
def fallback : Text := "PROMPTWEAVE_FALLBACK_ON_ERROR".toList

def trueWords : List Text :=
  ["true", "1", "yes", "on"].map String.toList

def falseWords : List Text :=
  ["false", "0", "no", "off"].map String.toList

def flag? (word : Text) : Option Bool :=
  if trueWords.contains word then some true
  else if falseWords.contains word then some false
  else none

def integer? (t : Text) : Option Int :=
  readInteger? Text.digit? (Text.stripNumeral t)

def word (t : Text) : Text :=
  (Text.strip t).lower

structure Override where
  name : Text
  key : Text
  read : Text → Except Text Value

def integerOverride (name key : Text) : Override where
  name := name
  key := key
  read t :=
    match integer? t with
    | some n => .ok (.int n)
    | none => .error t

def overrides : List Override :=
  [integerOverride maxBytes Settings.maxBytesKey,
   integerOverride maxDepth Settings.maxDepthKey,
   { name := format, key := Settings.formatKey, read := fun t => .ok (.text (word t)) },
   { name := fallback, key := Settings.fallbackKey,
     read := fun t =>
      match flag? (word t) with
      | some b => .ok (.bool b)
      | none => .error (word t) }]

def apply (env : Environment) (table : Assoc Value) (o : Override) : Assoc Value × List Event :=
  match env.get? o.name with
  | none => (table, [])
  | some t =>
      match o.read t with
      | .ok v => (table.put o.key v, [])
      | .error found => (table, [.invalidOverride o.name found])

def applyAll (env : Environment) : List Override → Assoc Value → Assoc Value × List Event
  | [], table => (table, [])
  | o :: os, table =>
      let (table, events) := env.apply table o
      let (table, more) := applyAll env os table
      (table, events ++ more)

end Environment

namespace Settings

def load (env : Environment) (table : Assoc Value) : Except SettingsError Settings × List Event :=
  let (table, events) := env.applyAll Environment.overrides table
  let unknown := unknownKeys table
  (ofTable? table, events ++ if unknown.isEmpty then [] else [.unknownSettings unknown])

def engineTable? (document : Assoc Value) : Option (Assoc Value) :=
  match document.get? "engine".toList with
  | none => some document
  | some (.dict table) => some table
  | some _ => none

end Settings

end PromptTemplate

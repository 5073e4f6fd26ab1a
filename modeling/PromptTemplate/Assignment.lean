import PromptTemplate.Data.Json
import PromptTemplate.Text.Utf8
import PromptTemplate.Variables

namespace PromptTemplate

inductive AssignmentError where
  | noEquals (pair : Text)
  | unreadable (path : Text)
  | notAnObject (path : Text)
  | encoding (e : Text.Utf8Error)
  deriving DecidableEq, Repr

namespace AssignmentError

def message : AssignmentError → Text
  | .noEquals pair => "Expected key=value, got ".toList ++ pair.quoted
  | .unreadable path => "Cannot read values from ".toList ++ path ++ ": not valid JSON".toList
  | .notAnObject path => path ++ " must contain a JSON object".toList
  | .encoding e => e.message

def option? : AssignmentError → Option Text
  | .noEquals _ => some "--set".toList
  | .unreadable _ | .notAnObject _ => some "--values".toList
  | .encoding _ => none

end AssignmentError

structure ValuesFile where
  path : Text
  bytes : List UInt8

namespace ValuesFile

def read (f : ValuesFile) : Except AssignmentError (Assoc Value) :=
  match Text.ofUtf8 f.bytes with
  | .error e => .error (.encoding e)
  | .ok t =>
      match Json.read? t with
      | none => .error (.unreadable f.path)
      | some (.dict entries) => .ok entries
      | some _ => .error (.notAnObject f.path)

end ValuesFile

namespace Assignment

def ofPair (pair : Text) : Except AssignmentError (Text × Value) :=
  match Text.cut? '=' pair with
  | some (key, value) => .ok (Text.strip key, .text value)
  | none => .error (.noEquals pair)

def collect (definitions : List Definition) (pairs : List Text) (file : Option ValuesFile)
    (usePreviews : Bool) : Except AssignmentError (Assoc Value) := do
  let shown := if usePreviews then Definition.previewValues definitions else []
  let fromFile ←
    match file with
    | some f => f.read
    | none => .ok []
  let settings ← pairs.mapM ofPair
  return (shown.merge fromFile).merge settings

end Assignment

end PromptTemplate

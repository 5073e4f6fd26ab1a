import PromptTemplate.Definition

namespace PromptTemplate

def Choice.toValue (c : Choice) : Value :=
  .dict [("label".toList, .text c.label), ("value".toList, .text c.value)]

namespace Definition

def entry (name : String) (v : Value) : List (Text × Value) :=
  [(name.toList, v)]

def optionalEntry {α : Type} (name : String) (f : α → Value) : Option α → List (Text × Value)
  | none => []
  | some a => entry name (f a)

def entries (d : Definition) : Assoc Value :=
  entry "key" (.text d.key) ++
  entry "label" (.text d.label) ++
  entry "type" (.text d.type.name) ++
  optionalEntry "default" Preset.toValue d.default ++
  optionalEntry "format" (fun f => .text f.name) d.format ++
  optionalEntry "options" (fun cs => .list (cs.map Choice.toValue)) d.options ++
  entry "required" (.bool d.required) ++
  optionalEntry "placeholder" .text d.placeholder ++
  optionalEntry "description" .text d.description ++
  optionalEntry "preview" Preset.toValue d.preview ++
  optionalEntry "min" .float d.min ++
  optionalEntry "max" .float d.max ++
  optionalEntry "step" .float d.step

def toValue (d : Definition) : Value :=
  .dict d.entries

end Definition

end PromptTemplate

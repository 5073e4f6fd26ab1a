import PromptTemplate.Operator
import PromptTemplate.TemplateError

namespace PromptTemplate

inductive Event where
  | parsed (tokens nodes : Nat)
  | undecided (key : Text) (error : ComparisonError)
  | unrendered (error : TemplateError)
  | unknownSettings (keys : List Text)
  | invalidOverride (name value : Text)
  | settingsWritten (path : Text)
  | promptFile (path issue : Text)
  deriving DecidableEq, Repr

inductive Level where
  | debug
  | info
  | warning
  deriving DecidableEq, Repr

def Level.name : Level → Text
  | .debug => "DEBUG".toList
  | .info => "INFO".toList
  | .warning => "WARNING".toList

namespace Event

def level : Event → Level
  | .parsed .. | .undecided .. | .unrendered (.malformed _) => .debug
  | .settingsWritten _ => .info
  | .unrendered (.tooLarge ..) | .unknownSettings _ | .invalidOverride .. | .promptFile .. =>
      .warning

def channel : Event → Text
  | .parsed .. => "promptweave_core.parser".toList
  | .undecided .. => "promptweave_core.evaluator".toList
  | .unrendered _ => "promptweave_core.engine".toList
  | .unknownSettings _ | .invalidOverride .. | .settingsWritten _ =>
      "promptweave_core.config".toList
  | .promptFile .. => "promptweave_cli.prompt_file".toList

def message : Event → Text
  | .parsed tokens nodes =>
      "Parsed ".toList ++ Text.ofNat tokens ++ " tokens into ".toList ++ Text.ofNat nodes ++
        " nodes".toList
  | .undecided key e =>
      "Comparison on '".toList ++ key ++ "' evaluated as false: ".toList ++ e.message
  | .unrendered e => "Returning template unrendered: ".toList ++ e.message
  | .unknownSettings keys =>
      "Ignoring unknown engine config keys: ".toList ++ Text.join ", ".toList keys
  | .invalidOverride name value =>
      "Invalid ".toList ++ name ++ " value: ".toList ++ value
  | .settingsWritten path => "Wrote engine configuration to ".toList ++ path
  | .promptFile path issue => path ++ ':' :: ' ' :: issue

def line (e : Event) : Text :=
  e.level.name ++ ' ' :: e.channel ++ ':' :: ' ' :: e.message

end Event

structure Journal where
  coercions : List Coercion
  events : List Event
  deriving DecidableEq, Repr

namespace Journal

def empty : Journal :=
  ⟨[], []⟩

def ofEvents (events : List Event) : Journal :=
  ⟨[], events⟩

instance : Append Journal where
  append a b := ⟨a.coercions ++ b.coercions, a.events ++ b.events⟩

end Journal

end PromptTemplate

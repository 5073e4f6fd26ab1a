import PromptTemplate.Engine
import PromptTemplate.Variables

namespace PromptTemplate

structure Session where
  context : Assoc Value
  definitions : List Definition
  last : Text
  engine : Engine

inductive Action where
  | set (key : Text) (value : Value)
  | unset (key : Text)
  | define (raw : Value)
  | sync (template : Text)
  | previewValues
  | defaultValues
  | configure (table : Assoc Value)
  | operators (table : OperatorTable)
  | render (template : Text)
  | rerender
  | capture (key : Text)
  | visible (template : Text)
  | keys

inductive Reply where
  | texts (ts : List Text)
  | text (t : Text)
  | values (m : Assoc Value)
  | definitions (ds : List Definition)
  | settings (s : Settings)

inductive SessionError where
  | definition (issues : List Issue)
  | settings (e : SettingsError)
  | engine (e : EngineError)
  deriving DecidableEq, Repr

namespace Session

def start (engine : Engine) : Session :=
  ⟨[], [], [], engine⟩

def index (s : Session) : Index :=
  Index.ofDefinitions s.definitions

def contextKeys (s : Session) : List Text :=
  Text.sorted s.context.keys

abbrev Outcome := Except SessionError (Session × Reply × Journal)

def quietly (s : Session) (reply : Reply) : Outcome :=
  .ok (s, reply, .empty)

def render (s : Session) (template : Text) : Outcome :=
  match s.engine.render template s.context s.index with
  | (.ok t, journal) => .ok ({ s with last := t }, .text t, journal)
  | (.error e, _) => .error (.engine e)

def perform (s : Session) : Action → Outcome
  | .set key value =>
      let s := { s with context := s.context.put key value }
      s.quietly (.texts s.contextKeys)
  | .unset key =>
      let s := { s with context := s.context.erase key }
      s.quietly (.texts s.contextKeys)
  | .define raw =>
      match Definition.ofValue raw with
      | .ok d =>
          let s := { s with definitions := s.definitions ++ [d] }
          s.quietly (.texts (s.definitions.map (·.key)))
      | .error issues => .error (.definition issues)
  | .sync template =>
      match Definition.syncRead s.definitions template with
      | .ok definitions => { s with definitions }.quietly (.definitions definitions)
      | .error issues => .error (.definition issues)
  | .previewValues =>
      let s := { s with context := Definition.previewValues s.definitions }
      s.quietly (.values s.context)
  | .defaultValues =>
      let s := { s with context := Definition.defaultValues s.definitions }
      s.quietly (.values s.context)
  | .configure table =>
      match Settings.ofTable? table with
      | .ok settings =>
          { s with engine := { s.engine with settings } }.quietly (.settings settings)
      | .error e => .error (.settings e)
  | .operators table =>
      { s with engine := { s.engine with operators := table } }.quietly (.texts table.keys)
  | .render template => s.render template
  | .rerender => s.render s.last
  | .capture key =>
      { s with context := s.context.put key (.text s.last) }.quietly (.text s.last)
  | .visible template =>
      match s.engine.annotate template s.context s.index with
      | (.ok p, journal) => .ok (s, .text p.children.visibleText, journal)
      | (.error e, _) => .error (.engine e)
  | .keys => s.quietly (.texts (Token.variableKeys s.last))

end Session

end PromptTemplate

import PromptTemplate.Assignment
import PromptTemplate.Command.Arguments
import PromptTemplate.Command.Disk
import PromptTemplate.Command.Outline
import PromptTemplate.Command.Table
import PromptTemplate.Definition.Export
import PromptTemplate.PromptFile
import PromptTemplate.Settings.File

namespace PromptTemplate

structure Console where
  stdout : Text
  stderr : Text
  coercions : List Coercion
  disk : Disk

inductive Stop where
  | usage
  | failed
  | crashed (exception : Text)
  deriving DecidableEq, Repr

structure Surroundings where
  environment : Environment
  verbose : Bool
  settingsPath : Option Path

abbrev Run := ExceptT Stop (StateM Console)

namespace Run

def print (t : Text) : Run Unit :=
  modify fun c => { c with stdout := c.stdout ++ t ++ ['\n'] }

def printLines (ts : List Text) : Run Unit :=
  ts.forM print

def out (t : Text) : Run Unit :=
  print (Text.dropSequences 0 t)

def log (t : Text) : Run Unit :=
  modify fun c => { c with stderr := c.stderr ++ t ++ ['\n'] }

def err (t : Text) : Run Unit :=
  log (Text.dropSequences 0 t)

def fail {α : Type} (t : Text) : Run α := do
  err t
  throw .failed

def report (s : Surroundings) (events : List Event) : Run Unit :=
  events.forM fun e => if s.verbose || e.level = .warning then log e.line else pure ()

def reportJournal (s : Surroundings) (j : Journal) : Run Unit := do
  modify fun c => { c with coercions := c.coercions ++ j.coercions }
  report s j.events

def look (p : Path) : Run (Option DiskEntry) :=
  return (← get).disk.look p

def bytesAt (p : Path) : Run (Option (List UInt8)) := do
  match ← look p with
  | some (.file bytes) => return some bytes
  | _ => return none

def prompt (s : Surroundings) (p : Path) : Run PromptFile := do
  match PromptFile.read p.toText (← bytesAt p) with
  | .error e => fail ("Error: ".toList ++ e.message)
  | .ok file =>
      report s file.events
      return file

def settingsFile (p : Path) : Run Settings.SettingsFile := do
  match ← look p with
  | none => return .missing p.toText
  | some .directory => return .directory p.toText
  | some (.file bytes) => return .present p.toText bytes

def settings (s : Surroundings) (lead : Text) (own : Option Path) : Run Settings := do
  let file ← (own.orElse fun _ => s.settingsPath).mapM settingsFile
  let (result, events) := Settings.ofSource s.environment file none
  report s events
  match result with
  | .ok settings => return settings
  | .error (.encoding _) => throw (.crashed "UnicodeDecodeError".toList)
  | .error e => fail (lead ++ e.message)

structure Request where
  file : Path
  pairs : List Text
  values : Option Path
  usePreviews : Bool
  settings : Option Path

def assignments (r : Request) (definitions : List Definition) : Run (Assoc Value) := do
  let file ← r.values.mapM fun p => do
    return { path := p.toText, bytes := (← bytesAt p).getD [] : ValuesFile }
  match Assignment.collect definitions r.pairs file r.usePreviews with
  | .ok values => return values
  | .error (.encoding _) => throw (.crashed "UnicodeDecodeError".toList)
  | .error _ => throw .usage

def engineFailure {α : Type} (lead : Text) : EngineError → Run α
  | .template e => fail (lead ++ e.message)
  | .fault _ => throw (.crashed "ValueError".toList)

def write (p : Path) (t : Text) : Run Unit := do
  match (← get).disk.write p t.toUtf8 with
  | .ok disk => modify fun c => { c with disk }
  | .error e => throw (.crashed e.name)

def render (s : Surroundings) (r : Request) (output : Option Path) : Run Unit := do
  let file ← prompt s r.file
  let settings ← settings s "Error: ".toList r.settings
  let values ← assignments r file.definitions
  let engine : Engine := ⟨settings, .builtin⟩
  let (result, journal) := engine.render file.template values (Index.ofDefinitions file.definitions)
  reportJournal s journal
  match result with
  | .error e => engineFailure "Error: ".toList e
  | .ok t =>
      match output with
      | some p =>
          write p t
          err ("Wrote ".toList ++ p.toText)
      | none => out t

def preview (s : Surroundings) (r : Request) (asJson : Bool) : Run Unit := do
  let file ← prompt s r.file
  let settings ← settings s "Error: ".toList r.settings
  let values ← assignments r file.definitions
  let engine : Engine := ⟨settings, .builtin⟩
  let (result, journal) := engine.annotate file.template values (Index.ofDefinitions file.definitions)
  reportJournal s journal
  match result with
  | .error e => engineFailure "Template has errors: ".toList e
  | .ok p =>
      if asJson then out (Json.write 0 p.toValue) else printLines (Outline.draw file.name p)

def column (name : String) : Text := name.toList

def syncedRow (declared : List Text) (d : Definition) : List Text :=
  [d.key, d.label, d.type.name, (d.default.map fun p => p.toValue.plain).getD [],
   (if declared.contains d.key then "declared" else "added").toList]

def syncedTable (file : PromptFile) (declared keys : List Text) (synced : List Definition) :
    List Text :=
  let removed := Text.sorted (declared.filter fun k => !keys.contains k)
  Table.draw (file.name ++ ": synced variables".toList)
    (["Key", "Label", "Type", "Default", "Status"].map column)
    (synced.map (syncedRow declared) ++ removed.map fun k => [k, [], [], [], "removed".toList])

def keyTable (file : PromptFile) (declared keys : List Text) : List Text :=
  Table.draw (file.name ++ ": variables".toList) (["Key", "Declared"].map column)
    (keys.map fun k => [k, (if declared.contains k then "yes" else "no").toList])

def listVariables (s : Surroundings) (p : Path) (sync asJson : Bool) : Run Unit := do
  let file ← prompt s p
  let keys := Token.variableKeys file.template
  let declared := file.definitions.map (·.key)
  let texts (ts : List Text) : Value := .list (ts.map Value.text)
  if sync then
    match Definition.syncRead file.definitions file.template with
    | .error _ => throw (.crashed "ValidationError".toList)
    | .ok synced =>
        if asJson then out (Json.write 0 (.list (synced.map Definition.toValue)))
        else printLines (syncedTable file declared keys synced)
  else if asJson then
    let undeclared := keys.filter fun k => !declared.contains k
    out (Json.write 0 (.dict [("keys".toList, texts keys), ("undeclared".toList, texts undeclared)]))
  else if keys.isEmpty then out "No variables referenced".toList
  else printLines (keyTable file declared keys)

def showSettings (s : Surroundings) (own : Option Path) : Run Unit := do
  let settings ← settings s "Error loading engine configuration: ".toList own
  out (Json.write 0 (.dict settings.toTable))

def validateSettings (s : Surroundings) (own : Option Path) : Run Unit := do
  let settings ← settings s "✗ Configuration validation failed: ".toList own
  out "✓ Configuration is valid".toList
  out ("  Max template bytes: ".toList ++ Text.ofNat settings.maxBytes)
  out ("  Max nesting depth: ".toList ++ Text.ofNat settings.maxDepth)
  out ("  Default format: ".toList ++ settings.format.name)
  out ("  Fallback on error: ".toList ++ (if settings.fallback then "true" else "false").toList)

def initSettings (s : Surroundings) (p : Path) (force : Bool) : Run Unit := do
  if (← look p).isSome && !force then
    fail ("Error: ".toList ++ p.toText ++ " already exists (use --force to overwrite)".toList)
  let settings ← settings s "Error: ".toList none
  match (← get).disk.makeDirectory p.parent with
  | .error e => throw (.crashed e.name)
  | .ok disk =>
      modify fun c => { c with disk }
      match disk.write p settings.toToml.toUtf8 with
      | .error e => fail ("Error: ".toList ++ (SettingsError.unwritable p.toText e.name).message)
      | .ok disk =>
          modify fun c => { c with disk }
          report s [.settingsWritten p.toText]
          out ("Wrote ".toList ++ p.toText)

def option (name long : String) (short : Option Char) (takesValue : Bool) : OptionSpec :=
  ⟨name.toList, long.toList, short, takesValue⟩

def helpOption : OptionSpec := option "help" "--help" none false

def runOptions : List OptionSpec :=
  [option "settings" "--config-file" none true, option "verbose" "--verbose" (some 'v') false,
   helpOption]

def requestOptions : List OptionSpec :=
  [option "set" "--set" (some 's') true, option "values" "--values" none true,
   option "previews" "--preview-values" none false, option "settings" "--config" none true,
   helpOption]

def renderOptions : List OptionSpec :=
  option "output" "--output" (some 'o') true :: requestOptions

def previewOptions : List OptionSpec :=
  option "json" "--json" none false :: requestOptions

def variablesOptions : List OptionSpec :=
  [option "sync" "--sync" none false, option "json" "--json" none false, helpOption]

def settingsOptions : List OptionSpec :=
  [option "settings" "--config" none true, helpOption]

def initOptions : List OptionSpec :=
  [option "force" "--force" none false, helpOption]

def arguments (specs : List OptionSpec) (mixed : Bool) (words : List Text) :
    Run (Option Arguments) :=
  match Arguments.read specs mixed none words with
  | none => throw .usage
  | some a => if a.has "help".toList then return none else return some a

def pathOf? (a : Arguments) (name : String) : Option Path :=
  (a.last? name.toList).map Path.ofText

def existingFile (word : Text) : Run Path := do
  let p := Path.ofText word
  if (← get).disk.leadsToFile word then return p else throw .usage

def onlyWord (a : Arguments) : Run Text :=
  match a.words with
  | [w] => return w
  | _ => throw .usage

def noWords (a : Arguments) : Run Unit :=
  if a.words.isEmpty then return else throw .usage

def request (a : Arguments) : Run Request := do
  let word ← onlyWord a
  let file ← existingFile word
  let values ← (a.last? "values".toList).mapM existingFile
  return { file, values, pairs := a.all "set".toList, usePreviews := a.has "previews".toList,
           settings := pathOf? a "settings" }

def settingsCommand (s : Surroundings) (words : List Text) : Run Unit := do
  match words with
  | [] => throw .usage
  | name :: words =>
      if name = "show".toList || name = "validate".toList then
        match ← arguments settingsOptions true words with
        | none => return
        | some a =>
            noWords a
            let own := pathOf? a "settings"
            if name = "show".toList then showSettings s own else validateSettings s own
      else if name = "init".toList then
        match ← arguments initOptions true words with
        | none => return
        | some a => initSettings s (Path.ofText (← onlyWord a)) (a.has "force".toList)
      else if name = "example".toList then
        match ← arguments [helpOption] true words with
        | none => return
        | some a =>
            noWords a
            out Settings.sample
      else throw .usage

def command (s : Surroundings) (name : Text) (words : List Text) : Run Unit := do
  if name = "render".toList then
    match ← arguments renderOptions true words with
    | none => return
    | some a => render s (← request a) (pathOf? a "output")
  else if name = "preview".toList then
    match ← arguments previewOptions true words with
    | none => return
    | some a => preview s (← request a) (a.has "json".toList)
  else if name = "variables".toList then
    match ← arguments variablesOptions true words with
    | none => return
    | some a =>
        listVariables s (← existingFile (← onlyWord a)) (a.has "sync".toList) (a.has "json".toList)
  else if name = "config".toList then
    match ← arguments [helpOption] false words with
    | none => return
    | some a => settingsCommand s a.words
  else throw .usage

def all (environment : Environment) (words : List Text) : Run Unit := do
  match ← arguments runOptions false words with
  | none => return
  | some a =>
      match a.words with
      | [] => throw .usage
      | name :: words =>
          let file ← (a.last? "settings".toList).mapM existingFile
          command ⟨environment, a.has "verbose".toList, file.map Path.resolve⟩ name words

end Run

def Stop.exitCode : Stop → Nat
  | .usage => 2
  | .failed | .crashed _ => 1

structure RunResult where
  stop : Option Stop
  console : Console

def RunResult.exitCode (r : RunResult) : Nat :=
  (r.stop.map Stop.exitCode).getD 0

def Disk.run (disk : Disk) (environment : Environment) (words : List Text) : RunResult :=
  match (Run.all environment words).run.run ⟨[], [], [], disk⟩ with
  | (.ok _, console) => ⟨none, console⟩
  | (.error stop, console) => ⟨some stop, console⟩

end PromptTemplate

import PromptTemplate.Definition.Validation
import PromptTemplate.Journal
import PromptTemplate.Path
import PromptTemplate.PromptFile.FrontMatter
import PromptTemplate.Text.Utf8

namespace PromptTemplate

inductive EntryFlaw where
  | notAMapping
  | rejected (issues : List Issue)
  | duplicate (key : Text) (first : Nat)
  deriving DecidableEq, Repr

inductive VariablesError where
  | notAList
  | entry (index : Nat) (flaw : EntryFlaw)
  deriving DecidableEq, Repr

namespace VariablesError

def entryName (i : Nat) : Text :=
  "variables[".toList ++ Text.ofNat i ++ [']']

def message : VariablesError → Text
  | .notAList => "variables: must be a list".toList
  | .entry i flaw =>
      entryName i ++ ':' :: ' ' ::
        match flaw with
        | .notAMapping => "must be a mapping".toList
        | .rejected issues => Issue.messages issues
        | .duplicate key first =>
            "duplicate key '".toList ++ key ++ "' (first at ".toList ++ entryName first ++ [')']

end VariablesError

namespace Definition

def ofEntriesFrom (i : Nat) (seen : Assoc Nat) : List Value → List Definition × List VariablesError
  | [] => ([], [])
  | v :: r =>
      match v.textEntries? with
      | some entries =>
          match ofEntries entries with
          | .error issues =>
              let (ds, es) := ofEntriesFrom (i + 1) seen r
              (ds, .entry i (.rejected issues) :: es)
          | .ok d =>
              match seen.get? d.key with
              | some first =>
                  let (ds, es) := ofEntriesFrom (i + 1) seen r
                  (ds, .entry i (.duplicate d.key first) :: es)
              | none =>
                  let (ds, es) := ofEntriesFrom (i + 1) (seen.put d.key i) r
                  (d :: ds, es)
      | none =>
          let (ds, es) := ofEntriesFrom (i + 1) seen r
          (ds, .entry i .notAMapping :: es)

def ofVariables : Option Value → List Definition × List VariablesError
  | none | some .none => ([], [])
  | some (.list entries) => ofEntriesFrom 0 [] entries
  | some _ => ([], [.notAList])

end Definition

structure PromptFile where
  path : Text
  name : Text
  description : Text
  template : Text
  definitions : List Definition
  errors : List VariablesError
  deriving DecidableEq, Repr

inductive PromptFileFlaw where
  | missing
  | encoding (e : Text.Utf8Error)
  | frontMatter (f : FrontMatter.Flaw)
  deriving DecidableEq, Repr

structure PromptFileError where
  path : Text
  flaw : PromptFileFlaw
  deriving DecidableEq, Repr

def PromptFileError.message (e : PromptFileError) : Text :=
  "Cannot load prompt file ".toList ++ e.path ++ ':' :: ' ' ::
    match e.flaw with
    | .missing => "no such file: ".toList ++ e.path
    | .encoding x => x.message
    | .frontMatter f => f.message

namespace PromptFile

def isValid (p : PromptFile) : Bool :=
  p.errors.isEmpty

def entryText (metadata : Assoc Value) (key : Text) (other : Text) : Text :=
  match metadata.get? key with
  | some v => if v.isVoid then other else v.plain
  | none => other

def ofDocument (path : Text) (d : FrontMatter.Document) : PromptFile :=
  let (definitions, errors) := Definition.ofVariables (d.metadata.get? "variables".toList)
  { path, definitions, errors
    name := entryText d.metadata "name".toList (Path.ofText path).stem
    description := entryText d.metadata "description".toList []
    template := d.body }

def events (p : PromptFile) : List Event :=
  p.errors.map fun e => .promptFile p.path e.message

def read (path : Text) (bytes : Option (List UInt8)) : Except PromptFileError PromptFile :=
  match bytes with
  | none => .error ⟨path, .missing⟩
  | some bytes =>
      match Text.ofUtf8 bytes with
      | .error e => .error ⟨path, .encoding e⟩
      | .ok t =>
          match FrontMatter.read t with
          | .error f => .error ⟨path, .frontMatter f⟩
          | .ok d => .ok (ofDocument path d)

end PromptFile

end PromptTemplate

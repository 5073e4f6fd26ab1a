import PromptTemplate.Text.Basic

namespace PromptTemplate

structure OptionSpec where
  name : Text
  long : Text
  short : Option Char
  takesValue : Bool

structure Arguments where
  options : List (Text × Text)
  words : List Text

namespace Arguments

def all (a : Arguments) (name : Text) : List Text :=
  (a.options.filter fun o => o.1 = name).map (·.2)

def last? (a : Arguments) (name : Text) : Option Text :=
  (a.all name).getLast?

def has (a : Arguments) (name : Text) : Bool :=
  !(a.all name).isEmpty

structure Reading where
  options : List (Text × Text)
  waiting : Option Text

def readShort (specs : List OptionSpec) : Text → Option Reading
  | [] => some ⟨[], none⟩
  | c :: r =>
      match specs.find? fun s => s.short = some c with
      | none => none
      | some s =>
          if s.takesValue then
            if r.isEmpty then some ⟨[], some s.name⟩ else some ⟨[(s.name, r)], none⟩
          else (readShort specs r).map fun x => { x with options := (s.name, []) :: x.options }

def readOption (specs : List OptionSpec) (word : Text) : Option Reading :=
  let (long, value) :=
    match Text.cut? '=' word with
    | some (long, value) => (long, some value)
    | none => (word, none)
  match specs.find? fun s => s.long = long with
  | some s =>
      match s.takesValue, value with
      | true, some v => some ⟨[(s.name, v)], none⟩
      | true, none => some ⟨[], some s.name⟩
      | false, none => some ⟨[(s.name, [])], none⟩
      | false, some _ => none
  | none =>
      match word with
      | '-' :: '-' :: _ => none
      | _ => readShort specs (word.drop 1)

def isOption : Text → Bool
  | '-' :: _ :: _ => true
  | _ => false

def read (specs : List OptionSpec) (mixed : Bool) (waiting : Option Text) :
    List Text → Option Arguments
  | [] => if waiting.isSome then none else some ⟨[], []⟩
  | word :: r =>
      match waiting with
      | some name =>
          (read specs mixed none r).map fun a => { a with options := (name, word) :: a.options }
      | none =>
          if word = ['-', '-'] then some ⟨[], r⟩
          else if isOption word then
            match readOption specs word with
            | none => none
            | some x =>
                (read specs mixed x.waiting r).map fun a =>
                  { a with options := x.options ++ a.options }
          else if mixed then
            (read specs mixed none r).map fun a => { a with words := word :: a.words }
          else some ⟨[], word :: r⟩

end Arguments

end PromptTemplate

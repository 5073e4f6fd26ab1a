import PromptTemplate.Text.Basic

namespace PromptTemplate

inductive Helper where
  | ifBlock
  | unlessBlock
  | eachBlock
  | withBlock
  deriving DecidableEq, Repr

namespace Helper

def all : List Helper :=
  [.ifBlock, .unlessBlock, .eachBlock, .withBlock]

def name : Helper → Text
  | .ifBlock => "if".toList
  | .unlessBlock => "unless".toList
  | .eachBlock => "each".toList
  | .withBlock => "with".toList

def ofName? (t : Text) : Option Helper :=
  all.find? fun h => h.name = t

theorem ofName?_name (h : Helper) : ofName? h.name = some h := by
  cases h <;> decide

def takesComparison : Helper → Bool
  | .ifBlock | .unlessBlock => true
  | .eachBlock | .withBlock => false

end Helper

structure Comparison where
  op : Text
  literal : Option Text
  other : Option Text
  deriving DecidableEq, Repr

structure Opening where
  helper : Helper
  key : Text
  inverted : Bool
  comparison : Option Comparison
  deriving DecidableEq, Repr

inductive Tag where
  | variable (key : Text)
  | opening (o : Opening)
  | otherwise
  | closing (helper : Helper)
  deriving DecidableEq, Repr

namespace Tag

def literalOps : List Text :=
  ["eq", "ne", "gt", "gte", "lt", "lte", "contains"].map String.toList

def keyOps : List Text :=
  ["and", "or"].map String.toList

def unaryOps : List Text :=
  ["not"].map String.toList

def isKeyStart (c : Char) : Bool :=
  ('a' ≤ c && c ≤ 'z') || ('A' ≤ c && c ≤ 'Z') || c = '_'

def isKeyChar (c : Char) : Bool :=
  isKeyStart c || ('0' ≤ c && c ≤ '9') || c = '-'

def isKey : Text → Bool
  | [] => false
  | c :: r => isKeyStart c && r.all isKeyChar

def takeKey? : Text → Option (Text × Text)
  | [] => none
  | c :: r =>
      if isKeyStart c then some (c :: r.takeWhile isKeyChar, r.dropWhile isKeyChar) else none

def skipBlanks? : Text → Option Text
  | [] => none
  | c :: r => if Text.isBlank c then some (r.dropWhile Text.isBlank) else none

def takeWord (t : Text) : Text × Text :=
  (t.takeWhile fun c => !Text.isBlank c, t.dropWhile fun c => !Text.isBlank c)

def takeLiteral? : Text → Option (Text × Text)
  | '"' :: r => Text.cut? '"' r
  | '\'' :: r => Text.cut? '\'' r
  | _ => none

def closesBracket (t : Text) : Bool :=
  t.dropWhile Text.isBlank = [')']

/-- Reads `op key "literal")`, `op key other)` or `op key)`, the opening bracket being gone.
Answers with the key. -/
def comparison? (t : Text) : Option (Text × Comparison) := do
  let (op, t) := takeWord (t.dropWhile Text.isBlank)
  let (key, t) ← takeKey? (← skipBlanks? t)
  if op ∈ literalOps then
    let (literal, t) ← takeLiteral? (← skipBlanks? t)
    if closesBracket t then some (key, ⟨op, some literal, none⟩) else none
  else if op ∈ keyOps then
    let (other, t) ← takeKey? (← skipBlanks? t)
    if closesBracket t then some (key, ⟨op, none, some other⟩) else none
  else if op ∈ unaryOps then
    if closesBracket t then some (key, ⟨op, none, none⟩) else none
  else none

def opening? (t : Text) : Option Opening := do
  let (word, t) := takeWord t
  let helper ← Helper.ofName? word
  match ← skipBlanks? t with
  | '(' :: r =>
      if helper.takesComparison then
        let (key, comparison) ← comparison? r
        some ⟨helper, key, helper = .unlessBlock, some comparison⟩
      else none
  | key => if isKey key then some ⟨helper, key, helper = .unlessBlock, none⟩ else none

def read? (content : Text) : Option Tag :=
  match Text.strip content with
  | '#' :: r => (opening? r).map .opening
  | '/' :: r => (Helper.ofName? r).map .closing
  | body =>
      if body = "else".toList then some .otherwise
      else if isKey body then some (.variable body) else none

end Tag

end PromptTemplate

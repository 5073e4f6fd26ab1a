import PromptTemplate.Preview
import PromptTemplate.Text.Terminal

namespace PromptTemplate.Outline

inductive Entry where
  | node (label : Text) (children : List Entry)

def maxShown : Nat := 60

def textLabel (content : Text) : Text :=
  (if content.length ≤ maxShown then content else content.take maxShown ++ ['…']).quoted

def variableLabel (r : Resolved) : Text :=
  placeholder r.key ++ " = ".toList ++ r.display.quoted ++ "  (".toList ++ r.state.name ++ [')']

def condition (o : Opening) : Text :=
  match o.comparison with
  | none => o.key
  | some c =>
      let parts := [c.op, o.key] ++ c.other.toList ++ (c.literal.map Text.quoted).toList
      '(' :: Text.join [' '] parts ++ [')']

def blockLabel (o : Opening) (outcome : Outcome) : Text :=
  '#' :: o.helper.name ++ ' ' :: condition o ++ " -> ".toList ++
    (if outcome.value then "true" else "false").toList ++
    match outcome.error with
    | some e => "  [".toList ++ e.message ++ [']']
    | none => []

def branchLabel (word : String) (shown : Bool) : Text :=
  word.toList ++ if shown then " (taken)".toList else []

def entries : Annotated → List Entry
  | .nil => []
  | .text _ content _ _ rest => .node (textLabel content) [] :: entries rest
  | .variable _ _ r _ _ rest => .node (variableLabel r) [] :: entries rest
  | .block _ o _ outcome _ _ first c _ hasAlternate second d rest =>
      let otherwise :=
        if hasAlternate then [Entry.node (branchLabel "else" second) (entries d)] else []
      .node (blockLabel o outcome) (.node (branchLabel "then" first) (entries c) :: otherwise) ::
        entries rest

mutual
def lines (lead : Text) (isLast : Bool) : Entry → List Text
  | .node label children =>
      (lead ++ (if isLast then "└── " else "├── ").toList ++ label) ::
        below (lead ++ (if isLast then "    " else "│   ").toList) children

def below (lead : Text) : List Entry → List Text
  | [] => []
  | e :: r => lines lead r.isEmpty e ++ below lead r
end

def draw (title : Text) (p : Preview) : List Text :=
  (Text.lines (Text.dropMoving title)).map (Text.expandTabs 0) ++ below [] (entries p.children)

end PromptTemplate.Outline

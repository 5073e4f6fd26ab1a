import PromptTemplate.Text.Basic

namespace PromptTemplate

structure Path where
  absolute : Bool
  parts : List Text
  deriving DecidableEq, Repr

namespace Path

def ofText (t : Text) : Path :=
  { absolute := t.head? = some '/'
    parts := (Text.pieces (· == '/') t).filter fun p => !p.isEmpty && p ≠ ['.'] }

def toText (p : Path) : Text :=
  if p.absolute then '/' :: Text.join ['/'] p.parts
  else if p.parts.isEmpty then ['.'] else Text.join ['/'] p.parts

def parent (p : Path) : Path :=
  { p with parts := p.parts.dropLast }

def ancestors (p : Path) : List Path :=
  (List.range p.parts.length).map fun n => { p with parts := p.parts.take n }

def name (p : Path) : Text :=
  p.parts.getLast?.getD []

def stem (p : Path) : Text :=
  let suffix := (p.name.reverse.takeWhile (· ≠ '.')).length
  if suffix = 0 || p.name.length ≤ suffix + 1 then p.name
  else p.name.take (p.name.length - suffix - 1)

def step (p : Path) (part : Text) : Path :=
  if part.isEmpty || part = ['.'] then p
  else if part = ['.', '.'] then
    match p.parts.getLast? with
    | some last => if last = part then { p with parts := p.parts ++ [part] } else p.parent
    | none => if p.absolute then p else { p with parts := [part] }
  else { p with parts := p.parts ++ [part] }

def origin (p : Path) : Path :=
  { p with parts := [] }

def resolve (p : Path) : Path :=
  p.parts.foldl step p.origin

end Path

end PromptTemplate

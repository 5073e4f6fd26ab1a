import PromptTemplate.Text.LineEnd
import PromptTemplate.Text.Terminal

namespace PromptTemplate.Table

def columnWidth (cells : List Text) : Nat :=
  ((cells.flatMap Text.allLines).map Text.width).foldl max 0

def padEnd (width : Nat) (t : Text) : Text :=
  t ++ List.replicate (width - t.width) ' '

def wordsFrom (inWord : Bool) : Text → List Text
  | [] => [[]]
  | c :: r =>
      if Text.isBlank c then
        match r with
        | d :: _ =>
            if inWord && !Text.isBlank d then [c] :: wordsFrom false r
            else
              match wordsFrom inWord r with
              | w :: ws => (c :: w) :: ws
              | [] => [[c]]
        | [] => [[c]]
      else
        match wordsFrom true r with
        | w :: ws => (c :: w) :: ws
        | [] => [[c]]

def takeFitting (width : Nat) : Text → Text × Text
  | [] => ([], [])
  | c :: r =>
      let w := Text.charWidth c
      if w ≤ width then let (a, b) := takeFitting (width - w) r; (c :: a, b) else ([], c :: r)

def chop (width : Nat) : Nat → Text → List Text
  | 0, t => [t]
  | fuel + 1, t =>
      match takeFitting width t with
      | (_, []) => [t]
      | ([], c :: r) => [c] :: chop width fuel r
      | (a, b) => a :: chop width fuel b

def fill (width : Nat) (current : Text) : List Text → List Text
  | [] => [current]
  | w :: ws =>
      let size := (Text.stripEnd w).width
      if current.width + size ≤ width then fill width (current ++ w) ws
      else if size ≤ width then
        if current.isEmpty then fill width w ws else current :: fill width w ws
      else
        let parts := chop width w.length w
        let before := if current.isEmpty then [] else [current]
        before ++ parts.dropLast ++ fill width (parts.getLast?.getD []) ws

def cropBlanks (width : Nat) (t : Text) : Text :=
  let blanks := t.length - (Text.stripEnd t).length
  t.take (t.length - min blanks (t.length - width))

def wrap (width : Nat) (t : Text) : List Text :=
  (Text.lines t).flatMap fun line =>
    (fill width [] (wordsFrom false (Text.expandTabs 0 line))).map (cropBlanks width)

def centre (width : Nat) (t : Text) : Text :=
  let t := Text.stripEnd t
  padEnd width (List.replicate ((width - t.width) / 2) ' ' ++ t)

structure Rule where
  left : Char
  fill : Char
  middle : Char
  right : Char

def top : Rule := ⟨'┏', '━', '┳', '┓'⟩
def underHeadings : Rule := ⟨'┡', '━', '╇', '┩'⟩
def bottom : Rule := ⟨'└', '─', '┴', '┘'⟩

def Rule.line (r : Rule) (widths : List Nat) : Text :=
  r.left :: Text.join [r.middle] (widths.map fun w => List.replicate (w + 2) r.fill) ++ [r.right]

def row (stroke : Char) (widths : List Nat) (cells : List (List Text)) : List Text :=
  let height := (cells.map List.length).foldl max 1
  (List.range height).map fun i =>
    let parts := (cells.zip widths).map fun (cell, w) => ' ' :: padEnd w (cell[i]?.getD []) ++ [' ']
    stroke :: Text.join [stroke] parts ++ [stroke]

def draw (title : Text) (headings : List Text) (rows : List (List Text)) : List Text :=
  let cells := rows.map fun r => r.map Text.dropMoving
  let widths := (List.range headings.length).map fun i =>
    columnWidth ((headings :: cells).map fun r => r[i]?.getD [])
  let total := widths.foldl (fun n w => n + w + 3) 1
  (wrap total (Text.dropMoving title)).map (centre total) ++
    [top.line widths] ++ row '┃' widths (headings.map fun h => [h]) ++
    [underHeadings.line widths] ++
    cells.flatMap (fun r => row '│' widths ((r.zip widths).map fun (t, w) => wrap w t)) ++
    [bottom.line widths]

end PromptTemplate.Table

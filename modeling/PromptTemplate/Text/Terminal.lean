import PromptTemplate.Text.Width

namespace PromptTemplate.Text

def isMoving (c : Char) : Bool :=
  let n := c.toNat
  n = 7 || n = 8 || n = 11 || n = 12 || n = 13

def dropMoving (t : Text) : Text :=
  t.filter fun c => !isMoving c

def tabWidth : Nat := 8

def expandTabs (column : Nat) : Text → Text
  | [] => []
  | c :: r =>
      if c = '\t' then
        let n := tabWidth - column % tabWidth
        List.replicate n ' ' ++ expandTabs (column + n) r
      else c :: expandTabs (column + charWidth c) r

def sequenceLength? : Text → Option Nat
  | '\x1b' :: '[' :: r =>
      let isPart (c : Char) : Bool := ('0' ≤ c && c ≤ '9') || c = ';' || c = '?'
      let n := (r.takeWhile isPart).length
      match r.drop n with
      | c :: _ => if ('a' ≤ c && c ≤ 'z') || ('A' ≤ c && c ≤ 'Z') then some (n + 2) else none
      | [] => none
  | _ => none

def dropSequences (skipped : Nat) : Text → Text
  | [] => []
  | c :: r =>
      match skipped with
      | n + 1 => dropSequences n r
      | 0 =>
          match sequenceLength? (c :: r) with
          | some n => dropSequences n r
          | none => c :: dropSequences 0 r

end PromptTemplate.Text

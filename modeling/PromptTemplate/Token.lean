import PromptTemplate.Tag

namespace PromptTemplate

/-- Positions count characters; `stop` is the first position behind. -/
structure Span where
  start : Nat
  stop : Nat
  deriving DecidableEq, Repr

def Span.slice (s : Span) (t : Text) : Text :=
  (t.drop s.start).take (s.stop - s.start)

inductive Token where
  | text (content : Text) (span : Span)
  | tag (tag : Tag) (span : Span)
  deriving DecidableEq, Repr

namespace Token

def span : Token → Span
  | .text _ s => s
  | .tag _ s => s

def isText : Token → Bool
  | .text .. => true
  | .tag .. => false

def pairFrom? (brace : Char) (t : Array Char) (pos : Nat) : Option Nat :=
  if pos + 1 < t.size then
    if t[pos]? = some brace && t[pos + 1]? = some brace then some pos
    else pairFrom? brace t (pos + 1)
  else none
termination_by t.size - pos

/-- The nearest closing braces from `pos` on. Those found before are still the nearest ones unless
they lie behind. -/
def closeFrom? (t : Array Char) (close : Option Nat) (pos : Nat) : Option Nat :=
  match close with
  | some c => if pos ≤ c then some c else pairFrom? '}' t pos
  | none => pairFrom? '}' t pos

theorem pairFrom?_bounds {brace : Char} {t : Array Char} {pos p : Nat}
    (h : pairFrom? brace t pos = some p) : pos ≤ p ∧ p + 1 < t.size := by
  fun_induction pairFrom? brace t pos with
  | case1 pos hlt hpair => cases h; exact ⟨Nat.le_refl _, hlt⟩
  | case2 pos hlt hpair ih => exact ⟨Nat.le_of_succ_le (ih h).1, (ih h).2⟩
  | case3 => cases h

theorem le_of_closeFrom? {t : Array Char} {close : Option Nat} {pos c : Nat}
    (h : closeFrom? t close pos = some c) : pos ≤ c := by
  unfold closeFrom? at h
  split at h
  · split at h
    · cases h; assumption
    · exact (pairFrom?_bounds h).1
  · exact (pairFrom?_bounds h).1

def slice (t : Array Char) (start stop : Nat) : Text :=
  (t.extract start stop).toList

def textBetween (t : Array Char) (start stop : Nat) : List Token :=
  if start < stop then [.text (slice t start stop) ⟨start, stop⟩] else []

/-- Tokens of what stands from `start` on, where no tag begins before `pos`; `close` is where
closing braces were found last. -/
def loop (t : Array Char) (start pos : Nat) (close : Option Nat) : List Token :=
  match _ : pairFrom? '{' t pos with
  | none => textBetween t start t.size
  | some p =>
      if 0 < p && t[p - 1]? = some '\\' then loop t start (p + 2) close
      else
        match _ : closeFrom? t close (p + 2) with
        | none => textBetween t start t.size
        | some c =>
            match Tag.read? (slice t (p + 2) c) with
            | none => loop t start (p + 1) (some c)
            | some found =>
                textBetween t start p ++ .tag found ⟨p, c + 2⟩ :: loop t (c + 2) (c + 2) (some c)
termination_by t.size - pos
decreasing_by
  · have := pairFrom?_bounds ‹_›; omega
  · have := pairFrom?_bounds ‹_›; omega
  · have := pairFrom?_bounds ‹pairFrom? _ _ _ = _›; have := le_of_closeFrom? ‹_›; omega

def tokenize (template : Text) : List Token :=
  loop template.toArray 0 0 none

def keys : Token → List Text
  | .tag (.variable key) _ => [key]
  | .tag (.opening o) _ => o.key :: (o.comparison.bind (·.other)).toList
  | _ => []

end Token

end PromptTemplate

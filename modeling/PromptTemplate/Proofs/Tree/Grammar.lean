import PromptTemplate.Tree

namespace PromptTemplate

inductive Sentence : Nat → List Token → Prop
  | nil {m : Nat} : Sentence m []
  | text {m : Nat} {content : Text} {s : Span} {ts : List Token} : Sentence m ts →
      Sentence m (.text content s :: ts)
  | variable {m : Nat} {key : Text} {s : Span} {ts : List Token} : Sentence m ts →
      Sentence m (.tag (.variable key) s :: ts)
  | block {m : Nat} {o : Opening} {s e : Span} {inner ts : List Token} : Sentence m inner →
      Sentence (m + 1) ts →
      Sentence (m + 1) (.tag (.opening o) s :: inner ++ .tag (.closing o.helper) e :: ts)
  | blockElse {m : Nat} {o : Opening} {s e f : Span} {inner other ts : List Token} :
      Sentence m inner → Sentence m other → Sentence (m + 1) ts →
      Sentence (m + 1) (.tag (.opening o) s :: inner ++ .tag .otherwise e :: other ++
        .tag (.closing o.helper) f :: ts)

structure OpenBlock where
  opening : Opening
  span : Span
  inElse : Bool
  deriving DecidableEq, Repr

/-- Rows that could go on to a sentence, with the blocks they leave open, innermost first. -/
inductive Unfinished (m : Nat) : List OpenBlock → List Token → Prop
  | root {ts : List Token} : Sentence m ts → Unfinished m [] ts
  | consequent {k : Nat} {o : Opening} {s : Span} {bs : List OpenBlock} {ts inner : List Token} :
      Unfinished m bs ts → bs.length + 1 + k = m → Sentence k inner →
      Unfinished m (⟨o, s, false⟩ :: bs) (ts ++ .tag (.opening o) s :: inner)
  | alternate {k : Nat} {o : Opening} {s e : Span} {bs : List OpenBlock}
      {ts inner other : List Token} :
      Unfinished m bs ts → bs.length + 1 + k = m → Sentence k inner → Sentence k other →
      Unfinished m (⟨o, s, true⟩ :: bs)
        (ts ++ .tag (.opening o) s :: inner ++ .tag .otherwise e :: other)

def Viable (m : Nat) (ts : List Token) : Prop :=
  ∃ rest, Sentence m (ts ++ rest)

theorem Sentence.append {m : Nat} {a b : List Token} (ha : Sentence m a) (hb : Sentence m b) :
    Sentence m (a ++ b) := by
  induction ha with
  | nil => exact hb
  | text _ ih => exact .text (ih hb)
  | «variable» _ ih => exact .variable (ih hb)
  | block hinner _ _ ih => simpa using Sentence.block hinner (ih hb)
  | blockElse hinner hother _ _ _ ih => simpa using Sentence.blockElse hinner hother (ih hb)

namespace Unfinished

variable {m : Nat} {bs : List OpenBlock} {ts : List Token}

theorem length_le (h : Unfinished m bs ts) : bs.length ≤ m := by
  cases h with
  | root _ => exact Nat.zero_le _
  | consequent _ hk _ =>
      rw [List.length_cons]
      omega
  | alternate _ hk _ _ =>
      rw [List.length_cons]
      omega

theorem append {k : Nat} {more : List Token} (h : Unfinished m bs ts) (hk : bs.length + k = m)
    (hmore : Sentence k more) : Unfinished m bs (ts ++ more) := by
  cases h with
  | root hts =>
      obtain rfl : k = m := by simpa using hk
      exact .root (hts.append hmore)
  | @consequent j o s bs ts inner hbs hj hinner =>
      rw [List.length_cons] at hk
      obtain rfl : k = j := by omega
      simpa using Unfinished.consequent (o := o) (s := s) hbs hj (hinner.append hmore)
  | @alternate j o s e bs ts inner other hbs hj hinner hother =>
      rw [List.length_cons] at hk
      obtain rfl : k = j := by omega
      have hother := hother.append hmore
      simpa using Unfinished.alternate (o := o) (s := s) (e := e) hbs hj hinner hother

theorem opened (h : Unfinished m bs ts) (hlt : bs.length < m) (o : Opening) (s : Span) :
    Unfinished m (⟨o, s, false⟩ :: bs) (ts ++ [.tag (.opening o) s]) :=
  .consequent (k := m - (bs.length + 1)) h (by omega) .nil

theorem otherwise {o : Opening} {s : Span} (h : Unfinished m (⟨o, s, false⟩ :: bs) ts)
    (e : Span) : Unfinished m (⟨o, s, true⟩ :: bs) (ts ++ [.tag .otherwise e]) := by
  cases h with
  | consequent hbs hk hinner => simpa using Unfinished.alternate (s := s) hbs hk hinner .nil

theorem closed {b : OpenBlock} (h : Unfinished m (b :: bs) ts) (e : Span) :
    Unfinished m bs (ts ++ [.tag (.closing b.opening.helper) e]) := by
  cases h with
  | @consequent k o s _ ts inner hbs hk hinner =>
      have hblock := Sentence.block (o := o) (s := s) (e := e) hinner .nil
      simpa using hbs.append (by omega) hblock
  | @alternate k o s d _ ts inner other hbs hk hinner hother =>
      have hblock := Sentence.blockElse (o := o) (s := s) (e := d) (f := e) hinner hother .nil
      simpa using hbs.append (by omega) hblock

theorem viable (h : Unfinished m bs ts) : Viable m ts := by
  induction bs generalizing ts with
  | nil =>
      cases h with
      | root hts => exact ⟨[], by simpa using hts⟩
  | cons b bs ih =>
      obtain ⟨rest, hrest⟩ := ih (h.closed b.span)
      exact ⟨_, by simpa using hrest⟩

end Unfinished

end PromptTemplate

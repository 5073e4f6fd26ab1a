import PromptTemplate.Token

namespace PromptTemplate.Token

def isTagChar (c : Char) : Bool :=
  Text.isBlank c || Tag.isKeyChar c || c = '#' || c = '/' || c = '(' || c = ')'

def quoteBehind? (quote : Option Char) (c : Char) : Option (Option Char) :=
  match quote with
  | some q => some (if c = q then none else some q)
  | none =>
      if c = '"' || c = '\'' then some (some c) else if isTagChar c then some none else none

def cutClose? (quote : Option Char) : Text → Option (Text × Text)
  | [] => none
  | '}' :: '}' :: r => some ([], r)
  | c :: r =>
      match quoteBehind? quote c with
      | none => none
      | some q => (cutClose? q r).map fun (content, rest) => (c :: content, rest)

theorem cutClose?_length {quote : Option Char} {t content rest : Text}
    (h : cutClose? quote t = some (content, rest)) :
    t.length = content.length + 2 + rest.length := by
  fun_induction cutClose? quote t generalizing content rest with
  | case1 => simp at h
  | case2 r => simp at h; obtain ⟨rfl, rfl⟩ := h; simp; omega
  | case3 => simp at h
  | case4 quote c r hne q hq ih =>
      cases hr : cutClose? q r with
      | none => simp [hr] at h
      | some p =>
          obtain ⟨content', rest'⟩ := p
          simp [hr] at h
          obtain ⟨rfl, rfl⟩ := h
          have := ih hr
          simp; omega

def escaped : Text → Bool
  | '\\' :: _ => true
  | '{' :: '\\' :: _ => true
  | _ => false

def tagHere? (before : Text) : Text → Option (Tag × Nat × Text)
  | '{' :: '{' :: r =>
      if escaped before then none
      else
        match cutClose? none r with
        | none => none
        | some (content, rest) => (Tag.read? content).map fun found => (found, content.length, rest)
  | _ => none

theorem tagHere?_length {before t rest : Text} {found : Tag} {n : Nat}
    (h : tagHere? before t = some (found, n, rest)) : t.length = n + 4 + rest.length := by
  unfold tagHere? at h
  split at h
  · split at h
    · simp at h
    · split at h
      · simp at h
      · rename_i content rest' hc
        simp at h
        obtain ⟨_, _, _, rfl, rfl⟩ := h
        have := cutClose?_length hc
        simp; omega
  · simp at h

def flush (run : Text) (stop : Nat) : List Token :=
  if run.isEmpty then [] else [.text run.reverse ⟨stop - run.length, stop⟩]

/-- Tokens of what follows position `pos`; `before` is all that stands before it and `run` the part
of that which belongs to no token yet, both nearest first. -/
def scan (before run : Text) (pos : Nat) (t : Text) : List Token :=
  match h : tagHere? before t with
  | some (found, n, rest) =>
      let source := t.take (n + 4)
      flush run pos ++
        .tag found ⟨pos, pos + n + 4⟩ :: scan (source.reverse ++ before) [] (pos + n + 4) rest
  | none =>
      match t with
      | [] => flush run pos
      | c :: r => scan (c :: before) (c :: run) (pos + 1) r
termination_by t.length
decreasing_by
  · have := tagHere?_length h; omega
  · simp

end PromptTemplate.Token

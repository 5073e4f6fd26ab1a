import PromptTemplate.Proofs.Tree.Construction

namespace PromptTemplate

def Token.bare : Token → Text ⊕ Tag
  | .text content _ => .inl content
  | .tag found _ => .inr found

namespace Body

def flatten : Body → List (Text ⊕ Tag)
  | .nil => []
  | .text _ content _ rest => .inl content :: flatten rest
  | .variable _ key _ rest => .inr (.variable key) :: flatten rest
  | .block _ o _ consequent _ hasAlternate alternate rest =>
      .inr (.opening o) :: flatten consequent ++
        (if hasAlternate then .inr .otherwise :: flatten alternate else []) ++
        .inr (.closing o.helper) :: flatten rest

theorem Built.flatten {n : Nat} {ts : List Token} {b : Body} (h : Built n ts b) :
    b.flatten = ts.map Token.bare := by
  induction h with
  | nil => rfl
  | text _ ih => simp [Body.flatten, Token.bare, ih]
  | «variable» _ ih => simp [Body.flatten, Token.bare, ih]
  | block _ _ ihc ih => simp [Body.flatten, Token.bare, ihc, ih]
  | blockElse _ _ _ ihc iha ih => simp [Body.flatten, Token.bare, ihc, iha, ih]

end Body

end PromptTemplate

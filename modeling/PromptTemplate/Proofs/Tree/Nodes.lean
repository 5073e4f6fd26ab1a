import PromptTemplate.Tree

namespace PromptTemplate

namespace Body

def ids : Body → List Nat
  | .nil => []
  | .text i _ _ r => i :: ids r
  | .variable i _ _ r => i :: ids r
  | .block i _ _ _ _ _ _ r => i :: ids r

def nodes : Body → List Node
  | .nil => []
  | .text i c s r => .text i c s :: nodes r
  | .variable i k s r => .variable i k s :: nodes r
  | .block i o s c e h a r =>
      .block i o s c.ids e (if h then some a.ids else none) :: (nodes c ++ nodes a ++ nodes r)

theorem isSome_second (hasAlternate : Bool) (alternate : Body) :
    (if hasAlternate then some alternate.ids else none).isSome = hasAlternate := by
  cases hasAlternate <;> rfl

end Body

def Tree.nodes (t : Tree) : List Node :=
  .root t.span t.body.ids :: t.body.nodes

end PromptTemplate

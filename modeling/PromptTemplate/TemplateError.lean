import PromptTemplate.Tree

namespace PromptTemplate

inductive TemplateError where
  | tooLarge (size limit : Nat)
  | malformed (e : ParseError)
  deriving DecidableEq, Repr

def TemplateError.message : TemplateError → Text
  | .tooLarge size limit =>
      "Template is ".toList ++ Text.ofNat size ++ " bytes; limit is ".toList ++ Text.ofNat limit ++
        " bytes".toList
  | .malformed e => e.message

end PromptTemplate

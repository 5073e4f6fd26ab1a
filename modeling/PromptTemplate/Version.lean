import PromptTemplate.Text.Basic

namespace PromptTemplate

def version : List Nat :=
  [0, 1, 0]

def versionText : Text :=
  Text.join ['.'] (version.map Text.ofNat)

end PromptTemplate

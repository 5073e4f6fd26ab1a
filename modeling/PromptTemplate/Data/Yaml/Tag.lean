import PromptTemplate.Data.Yaml.Mark
import PromptTemplate.Text.Hex
import PromptTemplate.Text.Utf8

namespace PromptTemplate.Yaml

structure TagName where
  handle : Text
  suffix : Text
  deriving DecidableEq, Repr

inductive Directive where
  | version (major minor : Nat)
  | handle (handle start : Text)
  deriving DecidableEq, Repr

def isTagChar (wide : Bool) (c : Char) : Bool :=
  isWord c ||
    [';', '/', '?', ':', '@', '&', '=', '+', '$', '.', '%', '!', '~', '*', '\'', '(', ')'].contains c ||
    (wide && [',', '[', ']'].contains c)

def tagBytes? : Text → Option (List UInt8)
  | [] => some []
  | '%' :: a :: b :: r => do
      let a ← Text.hexDigit? a
      let b ← Text.hexDigit? b
      return (a * 16 + b).toUInt8 :: (← tagBytes? r)
  | '%' :: _ => none
  | c :: r => (tagBytes? r).map (c.toNat.toUInt8 :: ·)

def tagText? (t : Text) : Option Text :=
  (tagBytes? t).bind fun bytes => (Text.ofUtf8 bytes).toOption

def takeTagText? (wide : Bool) (lead : Text) (ms : Marks) : Option (Text × Marks) :=
  let (body, rest) := ms.takeWhile (isTagChar wide)
  if lead.isEmpty && body.isEmpty then none
  else (tagText? body).map fun t => (lead.drop 1 ++ t, rest)

def takeHandle? (ms : Marks) : Option (Text × Marks) :=
  if ms.charAt 0 = '!' then
    let (body, rest) := Marks.takeWhile isWord (ms.drop 1)
    if rest.charAt 0 = '!' then some ('!' :: body ++ ['!'], rest.drop 1) else some ('!' :: body, rest)
  else none

def isHandle (t : Text) : Bool :=
  1 < t.length && t.getLast? = some '!'

def takeTag? (flow : Bool) (ms : Marks) : Option (TagName × Marks) := do
  let (tag, rest) ← (
    if ms.charAt 1 = '<' then do
      let (t, rest) ← takeTagText? true [] (ms.drop 2)
      if rest.charAt 0 = '>' then some (⟨[], t⟩, rest.drop 1) else none
    else do
      let (handle, rest) ← takeHandle? ms
      if isHandle handle then
        let (t, rest) ← takeTagText? false [] rest
        some (⟨handle, t⟩, rest)
      else
        let (t, rest) ← takeTagText? false handle rest
        some (if t.isEmpty then ⟨[], ['!']⟩ else ⟨['!'], t⟩, rest) : Option (TagName × Marks))
  if isGap (rest.charAt 0) || (flow && rest.charAt 0 = ',') then some (tag, rest) else none

def takeAnchor? (ms : Marks) : Option (Text × Marks) :=
  let (name, rest) := Marks.takeWhile isWord (ms.drop 1)
  let c := rest.charAt 0
  if name.isEmpty then none
  else if isGap c || ['?', ':', ',', ']', '}', '%', '@', Char.ofNat 0x60].contains c then
    some (name, rest)
  else none

def takeVersionPart? (ms : Marks) : Option (Nat × Marks) :=
  let (digits, rest) := ms.takeWhile isDigit
  if digits.isEmpty || 9 < digits.length then none
  else some (digits.foldl (fun n c => n * 10 + (c.toNat - 0x30)) 0, rest)

def takeVersion? (ms : Marks) : Option (Directive × Marks) := do
  let (major, rest) ← takeVersionPart? ms.skip
  if rest.charAt 0 = '.' then
    let (minor, rest) ← takeVersionPart? (rest.drop 1)
    some (.version major minor, rest)
  else none

def takeHandleMeaning? (ms : Marks) : Option (Directive × Marks) := do
  let (handle, rest) ← takeHandle? ms.skip
  if (isHandle handle || handle = ['!']) && isSpace (rest.charAt 0) then
    let (start, rest) ← takeTagText? true [] rest.skip
    if isGap (rest.charAt 0) then some (.handle handle start, rest) else none
  else none

def takeDirective? (ms : Marks) : Option (Directive × Marks) := do
  let (name, rest) := ms.takeWhile isWord
  let (directive, rest) ← (
    if !isGap (rest.charAt 0) then none
    else if name = "YAML".toList then takeVersion? rest
    else if name = "TAG".toList then takeHandleMeaning? rest
    else none : Option (Directive × Marks))
  return (directive, ← rest.lineEnd?)

end PromptTemplate.Yaml

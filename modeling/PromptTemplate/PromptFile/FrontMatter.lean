import PromptTemplate.Data.Json
import PromptTemplate.Data.Yaml
import PromptTemplate.Text.LineEnd

namespace PromptTemplate.FrontMatter

def hyphenFence? (t : Text) : Option Text :=
  if (t.takeWhile (· = '-')).length < 3 then none
  else
    let r := t.dropWhile (· = '-')
    let after := r.dropWhile Text.isBlank
    if after.isEmpty then some []
    else
      let blanks := (r.takeWhile Text.isBlank).reverse
      if blanks.contains '\n' then some ('\n' :: (blanks.takeWhile (· ≠ '\n')).reverse ++ after)
      else none

def braceFence? : Text → Option Text
  | c :: r =>
      if c = '{' || c = '}' then
        match r with
        | [] => some []
        | d :: _ => if d = '\n' then some r else none
      else none
  | [] => none

def cutAtFence (fence? : Text → Option Text) (atLineStart : Bool) : Text → Option (Text × Text)
  | [] => none
  | c :: r =>
      match if atLineStart then fence? (c :: r) else none with
      | some rest => some ([], rest)
      | none => (cutAtFence fence? (c = '\n') r).map fun (before, rest) => (c :: before, rest)

inductive Flaw where
  | yaml
  | json
  | otherKeys
  | reservedKey (key : Text)
  deriving DecidableEq, Repr

def Flaw.message : Flaw → Text
  | .yaml => "front matter is not valid YAML".toList
  | .json => "front matter is not valid JSON".toList
  | .otherKeys => "front matter has keys that are not texts".toList
  | .reservedKey key => "front matter cannot have the key ".toList ++ key.quoted

structure Document where
  metadata : Assoc Value
  body : Text

def reservedKeys : List Text :=
  ["self", "content", "handler"].map String.toList

def withData (data : Value) (body : Text) : Except Flaw Document :=
  match data with
  | .dict entries =>
      match (Assoc.keys entries).find? reservedKeys.contains with
      | some key => .error (.reservedKey key)
      | none => .ok ⟨entries, Text.strip body⟩
  | .table _ => .error .otherKeys
  | _ => .ok ⟨[], Text.strip body⟩

def read (t : Text) : Except Flaw Document :=
  let t := Text.strip (Text.normalizeLines t)
  let whole : Document := ⟨[], t⟩
  match hyphenFence? t with
  | some r =>
      match cutAtFence hyphenFence? false r with
      | none => .ok whole
      | some (front, body) =>
          match Yaml.read? front with
          | some data => withData data body
          | none => .error .yaml
  | none =>
      match braceFence? t with
      | some r =>
          match cutAtFence braceFence? false r with
          | none => .ok whole
          | some (front, body) =>
              match Json.read? ('{' :: front ++ ['}']) with
              | some data => withData data body
              | none => .error .json
      | none => .ok whole

end PromptTemplate.FrontMatter

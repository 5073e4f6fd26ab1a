import PromptTemplate.Data.Yaml.Node
import PromptTemplate.Text.Base64
import PromptTemplate.Value

namespace PromptTemplate.Yaml

def keyForm : Value → Value
  | .bool b => .int (if b then 1 else 0)
  | .float x =>
      match x.integer? with
      | some n => .int n
      | none => .float x
  | v => v

def isSameKey (v w : Value) : Bool :=
  match keyForm v, keyForm w with
  | .none, .none => true
  | .int m, .int n => m = n
  | .float x, .float y => x = y
  | .text s, .text t => s = t
  | .moment m, .moment n => m = n
  | .bytes bs, .bytes cs => bs = cs
  | _, _ => false

def isKey : Value → Bool
  | .list _ | .tuple _ | .dict _ | .set _ | .table _ | .ring _ => false
  | _ => true

abbrev Entries := List (Value × Value)

def putEntry (k v : Value) : Entries → Entries
  | [] => [(k, v)]
  | (k', v') :: r => if isSameKey k' k then (k', v) :: r else (k', v') :: putEntry k v r

def distinct (es : Entries) : Entries :=
  es.foldl (fun es (k, v) => putEntry k v es) []

def textKeyed? : Entries → Option (Assoc Value)
  | [] => some []
  | (.text k, v) :: r => (textKeyed? r).map ((k, v) :: ·)
  | _ => none

def ofEntries (es : Entries) : Value :=
  let es := distinct es
  match textKeyed? es with
  | some m => .dict m
  | none => .table es

def bool? (t : Text) : Option Bool :=
  let t := Text.lower t
  if trueWords.contains t then some true
  else if falseWords.contains t then some false
  else none

def binary? (t : Text) : Option (List UInt8) :=
  if t.all fun c => c.toNat < 0x80 then Text.ofBase64? t else none

def scalar? (kind : Kind) (t : Text) : Option Value :=
  match kind with
  | .null => some .none
  | .bool => (bool? t).map .bool
  | .int => (int? t).map .int
  | .float => (float? t).map .float
  | .binary => (binary? t).map .bytes
  | .moment => (moment? t).map .moment
  | .text => some (.text t)
  | _ => none

mutual
def Node.text? : Node → Option Text
  | .scalar _ t => some t
  | .sequence .. | .ring _ => none
  | .mapping _ es => standardText? es

def standardText? : List (Node × Node) → Option Text
  | [] => none
  | (k, v) :: r => if k.kind = .standard then Node.text? v else standardText? r
end

mutual
def Node.value? : Node → Option Value
  | .scalar kind t => scalar? kind t
  | .sequence kind ns =>
      match kind with
      | .sequence => (values? ns).map .list
      | .ordered | .pairs => (pairs? ns).map .list
      | _ => none
  | .mapping kind es =>
      match kind with
      | .mapping => (entries? es).map fun (taken, own) => ofEntries (taken ++ own)
      | .set =>
          (entries? es).map fun (taken, own) => .set ((distinct (taken ++ own)).map (·.1))
      | .moment => none
      | kind => (standardText? es).bind (scalar? kind)
  | .ring kind =>
      match kind with
      | .sequence | .ordered | .pairs => some (.ring false)
      | .mapping => some (.ring true)
      | _ => none

def values? : List Node → Option (List Value)
  | [] => some []
  | n :: r => do return (← n.value?) :: (← values? r)

def pairs? : List Node → Option (List Value)
  | [] => some []
  | n :: r =>
      match n with
      | .mapping _ [(k, v)] => do return .tuple [← k.value?, ← v.value?] :: (← pairs? r)
      | _ => none

def entries? : List (Node × Node) → Option (Entries × Entries)
  | [] => some ([], [])
  | (k, v) :: r => do
      if k.kind = .merge then
        let es ← taken? v
        let (taken, own) ← entries? r
        return (es ++ taken, own)
      else
        let key ← if k.kind = .standard then k.text?.map .text else k.value?
        let value ← v.value?
        let (taken, own) ← entries? r
        if isKey key then return (taken, (key, value) :: own) else none

def taken? : Node → Option Entries
  | .scalar .. => none
  | .ring kind => if kind = .sequence then none else some []
  | .sequence _ ns => takenOfAll? ns
  | .mapping _ es => (entries? es).map fun (taken, own) => taken ++ own

def takenOfAll? : List Node → Option Entries
  | [] => some []
  | n :: r =>
      match n with
      | .mapping _ es => do
          let (taken, own) ← entries? es
          return (← takenOfAll? r) ++ taken ++ own
      | _ => none
end

def read? (t : Text) : Option Value :=
  (Node.read? t).bind fun
    | none => some .none
    | some n => n.value?

end PromptTemplate.Yaml

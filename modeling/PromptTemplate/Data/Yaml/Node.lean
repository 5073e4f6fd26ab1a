import PromptTemplate.Assoc
import PromptTemplate.Data.Yaml.Kind
import PromptTemplate.Data.Yaml.Token

namespace PromptTemplate.Yaml

inductive Node where
  | scalar (kind : Kind) (text : Text)
  | sequence (kind : Kind) (items : List Node)
  | mapping (kind : Kind) (entries : List (Node × Node))
  | ring (kind : Kind)
  deriving Repr

namespace Node

def kind : Node → Kind
  | .scalar k _ => k
  | .sequence k _ => k
  | .mapping k _ => k
  | .ring k => k

def empty : Node := .scalar .null []

end Node

structure Source where
  tokens : List Token
  anchors : Assoc Node
  handles : Assoc Text
  deriving Repr

namespace Source

def next? (s : Source) : Option Token :=
  s.tokens.head?

def drop (s : Source) : Source :=
  { s with tokens := s.tokens.drop 1 }

def isNext (s : Source) (ts : List Token) : Bool :=
  match s.next? with
  | some t => ts.contains t
  | none => false

def open? (name : Option Text) (kind : Kind) (s : Source) : Option Source :=
  match name with
  | none => some s
  | some n =>
      if (s.anchors.get? n).isSome then none
      else some { s with anchors := s.anchors.put n (.ring kind) }

def close (name : Option Text) (node : Node) (s : Source) : Source :=
  match name with
  | none => s
  | some n => { s with anchors := s.anchors.put n node }

def tagText? (s : Source) (t : TagName) : Option Text :=
  if t.handle.isEmpty then some t.suffix
  else (s.handles.get? t.handle).map fun start => start ++ t.suffix

def takeProperties? (s : Source) : Option (Option Text × Option Text × Source) :=
  match s.tokens with
  | .anchor a :: .tag t :: r => (s.tagText? t).map fun t => (some a, some t, { s with tokens := r })
  | .tag t :: .anchor a :: r => (s.tagText? t).map fun t => (some a, some t, { s with tokens := r })
  | .anchor a :: r => some (some a, none, { s with tokens := r })
  | .tag t :: r => (s.tagText? t).map fun t => (none, some t, { s with tokens := r })
  | _ => some (none, none, s)

def collectionKind (usual : Kind) : Option Text → Kind
  | none => usual
  | some t => if t = ['!'] || t.isEmpty then usual else Kind.ofName t

def scalarKind ( isPlain : Bool) (text : Text) : Option Text → Kind
  | none => if isPlain then Kind.ofPlain text else .text
  | some t => if t = ['!'] then Kind.ofPlain text else Kind.ofName t

def emptyKind : Option Text → Kind
  | none => .null
  | some t => if t.isEmpty then .null else if t = ['!'] then .text else Kind.ofName t

mutual
def node? : Nat → Bool → Bool → Source → Option (Node × Source)
  | 0, _, _, _ => none
  | fuel + 1, block, entry, s =>
      match s.next? with
      | some (.alias name) => (s.anchors.get? name).map fun n => (n, s.drop)
      | _ => do
          let (anchor, tag, s) ← s.takeProperties?
          let named (n : Node) (s : Source) : Option (Node × Source) := some (n, s.close anchor n)
          let listKind := collectionKind .sequence tag
          let tableKind := collectionKind .mapping tag
          match s.next? with
          | some (.scalar t isPlain) =>
              let kind := scalarKind isPlain t tag
              named (.scalar kind t) (← s.open? anchor kind).drop
          | some .flowSequence =>
              let (items, s) ← flowItems? fuel true (← s.open? anchor listKind).drop
              named (.sequence listKind items) s
          | some .flowMapping =>
              let (entries, s) ← flowEntries? fuel true (← s.open? anchor tableKind).drop
              named (.mapping tableKind entries) s
          | t =>
              if t = some .item && entry then
                let (items, s) ← looseItems? fuel (← s.open? anchor listKind)
                named (.sequence listKind items) s
              else if t = some .blockSequence && block then
                let (items, s) ← items? fuel (← s.open? anchor listKind).drop
                named (.sequence listKind items) s
              else if t = some .blockMapping && block then
                let (entries, s) ← entries? fuel (← s.open? anchor tableKind).drop
                named (.mapping tableKind entries) s
              else if anchor.isSome || tag.isSome then
                let kind := emptyKind tag
                named (.scalar kind []) (← s.open? anchor kind)
              else none

def items? : Nat → Source → Option (List Node × Source)
  | 0, _ => none
  | fuel + 1, s =>
      match s.next? with
      | some .item => do
          let s := s.drop
          let (n, s) ← if s.isNext [.item, .blockEnd] then some (Node.empty, s) else node? fuel true false s
          let (ns, s) ← items? fuel s
          return (n :: ns, s)
      | some .blockEnd => some ([], s.drop)
      | _ => none

def looseItems? : Nat → Source → Option (List Node × Source)
  | 0, _ => none
  | fuel + 1, s =>
      match s.next? with
      | some .item => do
          let s := s.drop
          let (n, s) ←
            if s.isNext [.item, .key, .value, .blockEnd] then some (Node.empty, s)
            else node? fuel true false s
          let (ns, s) ← looseItems? fuel s
          return (n :: ns, s)
      | _ => some ([], s)

def entries? : Nat → Source → Option (List (Node × Node) × Source)
  | 0, _ => none
  | fuel + 1, s =>
      let part (s : Source) : Option (Node × Source) :=
        if s.isNext [.key, .value, .blockEnd] then some (Node.empty, s) else node? fuel true true s
      match s.next? with
      | some .key => do
          let (k, s) ← part s.drop
          let (v, s) ← if s.isNext [.value] then part s.drop else some (Node.empty, s)
          let (es, s) ← entries? fuel s
          return ((k, v) :: es, s)
      | some .blockEnd => some ([], s.drop)
      | _ => none

def flowItems? : Nat → Bool → Source → Option (List Node × Source)
  | 0, _, _ => none
  | fuel + 1, first, s =>
      if s.isNext [.flowSequenceEnd] then some ([], s.drop)
      else do
        let s ← if first then some s else if s.isNext [.comma] then some s.drop else none
        if s.isNext [.flowSequenceEnd] then some ([], s.drop)
        else
          let (n, s) ← (
            if s.isNext [.key] then do
              let s := s.drop
              let (k, s) ←
                if s.isNext [.value, .comma, .flowSequenceEnd] then some (Node.empty, s.drop)
                else node? fuel false false s
              let (v, s) ←
                if s.isNext [.value] then
                  if s.drop.isNext [.comma, .flowSequenceEnd] then some (Node.empty, s.drop)
                  else node? fuel false false s.drop
                else some (Node.empty, s)
              some (Node.mapping .mapping [(k, v)], s)
            else node? fuel false false s : Option (Node × Source))
          let (ns, s) ← flowItems? fuel false s
          return (n :: ns, s)

def flowEntries? : Nat → Bool → Source → Option (List (Node × Node) × Source)
  | 0, _, _ => none
  | fuel + 1, first, s =>
      if s.isNext [.flowMappingEnd] then some ([], s.drop)
      else do
        let s ← if first then some s else if s.isNext [.comma] then some s.drop else none
        if s.isNext [.flowMappingEnd] then some ([], s.drop)
        else
          let (e, s) ← (
            if s.isNext [.key] then do
              let s := s.drop
              let (k, s) ←
                if s.isNext [.value, .comma, .flowMappingEnd] then some (Node.empty, s)
                else node? fuel false false s
              let (v, s) ←
                if s.isNext [.value] then
                  if s.drop.isNext [.comma, .flowMappingEnd] then some (Node.empty, s.drop)
                  else node? fuel false false s.drop
                else some (Node.empty, s)
              some ((k, v), s)
            else (node? fuel false false s).map fun (k, s) => ((k, Node.empty), s) :
              Option ((Node × Node) × Source))
          let (es, s) ← flowEntries? fuel false s
          return (e :: es, s)
end

def usualHandles : Assoc Text :=
  [(['!'], ['!']), (['!', '!'], Kind.space)]

def takeDirectives? : Bool → Assoc Text → List Token → Option (Assoc Text × List Token)
  | versioned, handles, .directive (.version major minor) :: r =>
      if versioned || major ≠ 1 || (minor ≠ 1 && minor ≠ 2) then none
      else takeDirectives? true handles r
  | versioned, handles, .directive (.handle handle start) :: r =>
      if (handles.get? handle).isSome then none
      else takeDirectives? versioned (handles ++ [(handle, start)]) r
  | _, handles, ts => some (handles ++ usualHandles, ts)

def document? (ts : List Token) : Option (Option Node) :=
  let read (handles : Assoc Text) (ts : List Token) : Option (Node × Source) :=
    node? (3 * ts.length + 3) true false ⟨ts, [], handles⟩
  let ended (n : Node) (ts : List Token) : Option (Option Node) :=
    if ts.all (· = .documentEnd) then some (some n) else none
  match ts with
  | [] => some none
  | .directive _ :: _ | .documentStart :: _ =>
      match takeDirectives? false [] ts with
      | some (handles, .documentStart :: r) =>
          match r with
          | [] | .directive _ :: _ | .documentStart :: _ | .documentEnd :: _ => ended Node.empty r
          | _ => (read handles r).bind fun (n, s) => ended n s.tokens
      | _ => none
  | _ => (read usualHandles ts).bind fun (n, s) => ended n s.tokens

end Source

def Node.read? (t : Text) : Option (Option Node) :=
  (tokens? t).bind Source.document?

end PromptTemplate.Yaml

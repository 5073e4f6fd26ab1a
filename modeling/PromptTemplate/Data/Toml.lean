import PromptTemplate.Assoc
import PromptTemplate.Data.Toml.Lexeme
import PromptTemplate.Text.LineEnd

namespace PromptTemplate.Toml

abbrev Way := List Text

def update? (throughArrays : Bool) (f : Assoc Value → Option (Assoc Value)) :
    Way → Assoc Value → Option (Assoc Value)
  | [], m => f m
  | k :: ks, m =>
      match m.get? k with
      | none => (update? throughArrays f ks []).map fun inner => m.put k (.dict inner)
      | some (.dict inner) =>
          (update? throughArrays f ks inner).map fun inner => m.put k (.dict inner)
      | some (.list items) =>
          match throughArrays, items.reverse with
          | true, .dict inner :: before =>
              (update? throughArrays f ks inner).map fun inner =>
                m.put k (.list (before.reverse ++ [.dict inner]))
          | _, _ => none
      | some _ => none

def add? (key : Text) (value : Value) (m : Assoc Value) : Option (Assoc Value) :=
  if (m.get? key).isSome then none else some (m.put key value)

def insert? (throughArrays : Bool) (way : Way) (value : Value) (m : Assoc Value) :
    Option (Assoc Value) :=
  match way.reverse with
  | [] => none
  | key :: before => update? throughArrays (add? key value) before.reverse m

def isCollection : Value → Bool
  | .dict _ | .list _ => true
  | _ => false

def passes (way : Way) (others : List Way) : Bool :=
  others.any fun w => w.isPrefixOf way

mutual
def takeValue? : Nat → Text → Option (Value × Text)
  | 0, _ => none
  | fuel + 1, t =>
      match t with
      | '[' :: r => (takeItems? fuel r).map fun (vs, r) => (.list vs, r)
      | '{' :: r =>
          match skip r with
          | '}' :: r => some (.dict [], r)
          | r => (takeMembers? fuel [] [] r).map fun (m, r) => (.dict m, r)
      | '"' :: _ | '\'' :: _ => (takeString? t).map fun (s, r) => (.text s, r)
      | _ =>
          match Text.after? "true".toList t, Text.after? "false".toList t with
          | some r, _ => some (.bool true, r)
          | _, some r => some (.bool false, r)
          | none, none =>
              match takeMoment? t with
              | some (m, r) => some (.moment m, r)
              | none => takeNumber? t

def takeItems? : Nat → Text → Option (List Value × Text)
  | 0, _ => none
  | fuel + 1, t =>
      match skipLines t.length t with
      | ']' :: r => some ([], r)
      | t => do
          let (v, r) ← takeValue? fuel t
          match skipLines r.length r with
          | ']' :: r => some ([v], r)
          | ',' :: r =>
              let (vs, r) ← takeItems? fuel r
              return (v :: vs, r)
          | _ => none

def takeMembers? : Nat → List Way → Assoc Value → Text → Option (Assoc Value × Text)
  | 0, _, _, _ => none
  | fuel + 1, complete, m, t => do
      let (way, r) ← takeKey? t.length t
      let (v, r) ← takeValue? fuel (skip (← Text.after? ['='] r))
      if passes way complete then none
      else
        let m ← insert? false way v m
        match skip r with
        | '}' :: r => some (m, r)
        | ',' :: r =>
            takeMembers? fuel (if isCollection v then way :: complete else complete) m r
        | _ => none
end

/-- A document being read: its table, the way to the table that takes the next keys, the ways to
tables that are not made again, the ways to collections that are complete, and the ways to tables
that keys with points have passed since the last header. -/
structure Draft where
  table : Assoc Value
  way : Way
  made : List Way
  complete : List Way
  passed : List Way

namespace Draft

def start : Draft :=
  ⟨[], [], [], [], []⟩

def close (d : Draft) : Draft :=
  { d with made := d.passed ++ d.made, passed := [] }

def header? (d : Draft) (way : Way) : Option Draft :=
  let d := d.close
  if d.made.contains way || passes way d.complete then none
  else
    (update? true some way d.table).map fun table => { d with table, way, made := way :: d.made }

def addTable? (key : Text) (m : Assoc Value) : Option (Assoc Value) :=
  match m.get? key with
  | none => some (m.put key (.list [.dict []]))
  | some (.list items) => some (m.put key (.list (items ++ [.dict []])))
  | some _ => none

def arrayHeader? (d : Draft) (way : Way) : Option Draft :=
  let d := d.close
  match way.reverse with
  | [] => none
  | key :: before =>
      if passes way d.complete then none
      else
        (update? true (addTable? key) before.reverse d.table).map fun table =>
          { d with
            table, way
            made := way :: d.made.filter fun w => !way.isPrefixOf w
            complete := d.complete.filter fun w => !way.isPrefixOf w }

def tablesOn (d : Draft) (key : Way) : List Way :=
  (List.range (key.length - 1)).map fun n => d.way ++ key.take (n + 1)

def entry? (d : Draft) (key : Way) (value : Value) : Option Draft :=
  let tables := d.tablesOn key
  let way := d.way ++ key
  if tables.any d.made.contains || passes way.dropLast d.complete then none
  else
    (insert? true way value d.table).map fun table =>
      { d with
        table
        complete := if isCollection value then way :: d.complete else d.complete
        passed := tables ++ d.passed }

end Draft

def readLines : Nat → Draft → Text → Option (Assoc Value)
  | 0, d, t => if t.isEmpty then some d.table else none
  | fuel + 1, d, t =>
      match skip t with
      | [] => some d.table
      | '[' :: '[' :: r => do
          let (way, r) ← takeKey? r.length r
          readLines fuel (← d.arrayHeader? way) (← endLine? (← Text.after? [']', ']'] r))
      | '[' :: r => do
          let (way, r) ← takeKey? r.length r
          readLines fuel (← d.header? way) (← endLine? (← Text.after? [']'] r))
      | c :: r =>
          if c = '#' || c = '\n' then do readLines fuel d (← endLine? (c :: r))
          else do
            let (key, r) ← takeKey? (r.length + 1) (c :: r)
            let r := skip (← Text.after? ['='] r)
            let (v, r) ← takeValue? (r.length + 1) r
            readLines fuel (← d.entry? key v) (← endLine? r)

def read? (t : Text) : Option (Assoc Value) :=
  let t := Text.joinLineEnds t
  readLines (t.length + 1) .start t

def writeString (t : Text) : Text :=
  '"' :: t ++ ['"']

end PromptTemplate.Toml

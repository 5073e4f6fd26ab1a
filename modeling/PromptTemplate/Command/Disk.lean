import PromptTemplate.Path

namespace PromptTemplate

inductive DiskEntry where
  | file (bytes : List UInt8)
  | directory
  deriving DecidableEq, Repr

structure Disk where
  entries : List (Path × DiskEntry)

inductive DiskError where
  | missing
  | isDirectory
  | notADirectory
  | exists
  deriving DecidableEq, Repr

def DiskError.name : DiskError → Text
  | .missing => "FileNotFoundError".toList
  | .isDirectory => "IsADirectoryError".toList
  | .notADirectory => "NotADirectoryError".toList
  | .exists => "FileExistsError".toList

namespace Disk

def listed? (d : Disk) (p : Path) : Option DiskEntry :=
  (d.entries.find? fun e => e.1 = p).map (·.2)

def isAround (p q : Path) : Bool :=
  p.absolute = q.absolute && p.parts.isPrefixOf q.parts

def entryAt (d : Disk) (p : Path) : Option DiskEntry :=
  match d.listed? p with
  | some e => some e
  | none =>
      if p.parts.isEmpty || d.entries.any fun e => isAround p e.1 then some .directory else none

def follow (d : Disk) (p : Path) : List Text → Except DiskError Path
  | [] => .ok p
  | part :: r =>
      match d.entryAt p with
      | some .directory => follow d (p.step part) r
      | some (.file _) => .error .notADirectory
      | none => .error .missing

def look (d : Disk) (p : Path) : Option DiskEntry :=
  match d.follow p.origin p.parts with
  | .ok p => d.entryAt p
  | .error _ => none

def leadsToFile (d : Disk) (word : Text) : Bool :=
  match d.follow (Path.ofText word).origin (Text.pieces (· == '/') word) with
  | .ok p => (d.entryAt p matches some (.file _))
  | .error _ => false

def put (d : Disk) (p : Path) (e : DiskEntry) : Disk :=
  ⟨(p, e) :: d.entries.filter fun x => x.1 ≠ p⟩

def write (d : Disk) (p : Path) (bytes : List UInt8) : Except DiskError Disk :=
  match d.follow p.origin p.parts with
  | .error e => .error e
  | .ok p =>
      match d.entryAt p with
      | some .directory => .error .isDirectory
      | _ => .ok (d.put p (.file bytes))

def makeDirectories (d : Disk) (p : Path) : List Text → Except DiskError Disk
  | [] => .ok d
  | part :: r =>
      let p := p.step part
      match d.entryAt p with
      | some .directory => makeDirectories d p r
      | some (.file _) => .error (if r.isEmpty then .exists else .notADirectory)
      | none => makeDirectories (d.put p .directory) p r

def makeDirectory (d : Disk) (p : Path) : Except DiskError Disk :=
  d.makeDirectories p.origin p.parts

end Disk

end PromptTemplate

import PromptTemplate.Command.Run

namespace PromptTemplate

def pathsIn (word : Text) : List Path :=
  let parts := [word, word.drop 2] ++ ((Text.cut? '=' word).map (·.2)).toList
  (parts.filter fun t => !t.isEmpty).flatMap fun t =>
    let p := Path.ofText t
    (p :: p.ancestors).map Path.resolve

def entryAt (p : Path) : IO (Option DiskEntry) := do
  let name := String.ofList p.toText
  try
    return some (.file (← IO.FS.readBinFile name).toList)
  catch _ =>
    try
      discard (IO.FS.realPath name)
      return some .directory
    catch _ => return none

def snapshot (words : List Text) : IO Disk := do
  let paths := (words.flatMap pathsIn).eraseDups
  let found ← paths.mapM fun p => return (← entryAt p).map fun e => (p, e)
  return ⟨found.filterMap id⟩

def store (before after : Disk) : IO Unit := do
  let changed := after.entries.filter fun e => !before.entries.contains e
  for (p, e) in changed.reverse do
    let name := String.ofList p.toText
    match e with
    | .directory => IO.FS.createDirAll name
    | .file bytes => IO.FS.writeBinFile name (ByteArray.mk bytes.toArray)

def environment : IO Environment := do
  let names := [Environment.maxBytes, Environment.maxDepth, Environment.format, Environment.fallback]
  let found ← names.mapM fun n => return (← IO.getEnv (String.ofList n)).map fun v => (n, v.toList)
  return found.filterMap id

def usage : String :=
  "Usage: [--config-file FILE] [-v] render|preview|variables|config [ARGUMENTS]"

end PromptTemplate

open PromptTemplate in
def main (arguments : List String) : IO UInt32 := do
  let words := arguments.map String.toList
  let disk ← snapshot words
  let result := disk.run (← environment) words
  store disk result.console.disk
  IO.print (String.ofList result.console.stdout)
  IO.eprint (String.ofList result.console.stderr)
  for c in result.console.coercions do
    IO.eprintln s!"CoercionWarning: {String.ofList c.message}"
  match result.stop with
  | some .usage => IO.eprintln usage
  | some (.crashed exception) => IO.eprintln (String.ofList exception)
  | _ => pure ()
  return result.exitCode.toUInt32

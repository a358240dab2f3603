import Subgraph.CommandLine

namespace Subgraph.Main

/-- What stands at a path. -/
def probe (path : Path) : IO (Option Node) := do
  try
    return some (.file (← IO.FS.readBinFile path.text).toList)
  catch error =>
    match error with
    | .inappropriateType _ 21 _ => return some .directory
    | _ => return none

/-- Adds what stands at a path, and at the paths on the way to it. -/
def look (tree : FileTree) (path : Path) : IO FileTree :=
  (List.range (path.parts.length + 1)).foldlM (fun tree size => do
    let part : Path := { path with parts := path.parts.take size }
    match ← probe part, tree.place? part with
    | some node, .ok place => return if Place.isOuter place then tree else tree.put place node
    | _, _ => return tree) tree

def lookAll (tree : FileTree) (paths : List Path) : IO FileTree :=
  paths.foldlM look tree

/-- Looks twice, because a configuration that is found may name more files. -/
def gather (input : List UInt8) (invocation : CommandLine.Invocation) : IO FileTree := do
  let tree ← lookAll {} (CommandLine.pathsOf {} input invocation)
  lookAll tree (CommandLine.pathsOf tree input invocation)

def placeText : Place → String
  | "/" :: parts => "/" ++ "/".intercalate parts
  | parts => "/".intercalate parts

/-- Makes the directories and writes the files that are new. -/
def store (before after : FileTree) : IO Unit := do
  for (place, node) in after.nodes do
    if before.node? place != some node then
      match node with
      | .directory => IO.FS.createDirAll (placeText place)
      | .file content => IO.FS.writeBinFile (placeText place) ⟨content.toArray⟩

/-- All bytes of a stream. -/
partial def drain (stream : IO.FS.Stream) (bytes : ByteArray) : IO ByteArray := do
  let more ← stream.read 65536
  if more.isEmpty then return bytes else drain stream (bytes ++ more)

def emit (outcome : CommandLine.Outcome) : IO UInt32 := do
  let errors ← IO.getStderr
  errors.putStr outcome.messages
  let output ← IO.getStdout
  output.write ⟨outcome.output.toArray⟩
  output.flush
  match outcome.exit with
  | .ok code => return code.toUInt32
  | .error cause =>
    errors.putStrLn cause.message
    return 1

end Subgraph.Main

open Subgraph in
def main (arguments : List String) : IO UInt32 := do
  match CommandLine.readArguments arguments with
  | .error ending => Main.emit (ending.outcome {})
  | .ok invocation =>
    let input ← match invocation with
      | .plugin => pure (← Main.drain (← IO.getStdin) .empty).toList
      | _ => pure []
    let before ← Main.gather input invocation
    let outcome := CommandLine.perform before input invocation
    Main.store before outcome.tree
    Main.emit outcome

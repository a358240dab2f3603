import Subgraph.Basic
import Subgraph.Text.Quoted

namespace Subgraph

/-- A path without empty and `.` parts. Parts `..` stay. -/
structure Path where
  /-- The slashes that make the path absolute. -/
  root : String := ""
  parts : List String := []
  deriving DecidableEq, Repr

namespace Path

/-- Two leading slashes are told from one, more are not. -/
def rootOf (text : List Char) : String :=
  match text with
  | '/' :: '/' :: '/' :: _ => "/"
  | '/' :: '/' :: _ => "//"
  | '/' :: _ => "/"
  | _ => ""

def ofString (text : String) : Path where
  root := rootOf text.toList
  parts := ((text.toList.splitOn '/').map String.ofList).filter fun part => !part.isEmpty && part != "."

def text (path : Path) : String :=
  if path.root.isEmpty && path.parts.isEmpty then "." else path.root ++ "/".intercalate path.parts

/-- The last part, or nothing. -/
def name (path : Path) : String :=
  path.parts.getLast?.getD ""

/-- A path below another one. An absolute path stays as it is. -/
def join (path below : Path) : Path :=
  if below.root.isEmpty then { path with parts := path.parts ++ below.parts } else below

end Path

inductive Obstacle where
  | notFound
  | occupied
  | notDirectory
  | isDirectory
  deriving DecidableEq, Repr

def Obstacle.code : Obstacle → Nat
  | notFound => 2
  | occupied => 17
  | notDirectory => 20
  | isDirectory => 21

def Obstacle.reason : Obstacle → String
  | notFound => "No such file or directory"
  | occupied => "File exists"
  | notDirectory => "Not a directory"
  | isDirectory => "Is a directory"

/-- An operation on a path that could not be done. -/
structure FileFault where
  obstacle : Obstacle
  path : Path
  deriving DecidableEq, Repr

def FileFault.message (fault : FileFault) : String :=
  s!"[Errno {fault.obstacle.code}] {fault.obstacle.reason}: {Text.quoted fault.path.text}"

inductive Node where
  | file (content : List UInt8)
  | directory
  deriving DecidableEq, Repr

/-- A place, by the way there from the working directory. The way may start with parts `..`, or with
`/` for the root. -/
abbrev Place := List String

/-- The working directory, those above it, and the root. They are always there. -/
def Place.isOuter (place : Place) : Bool :=
  place.all (· == "..") || place == ["/"]

def Place.parent (place : Place) : Place :=
  if place == ["/"] then place
  else if place.all (· == "..") then place ++ [".."]
  else place.dropLast

/-- The files and directories that a run can reach. Links, permissions and names that a system refuses
are left out. -/
structure FileTree where
  nodes : Registry Node Place := []
  deriving DecidableEq, Repr

namespace FileTree

def node? (tree : FileTree) (place : Place) : Option Node :=
  if Place.isOuter place then some .directory else tree.nodes.get? place

def put (tree : FileTree) (place : Place) (node : Node) : FileTree :=
  ⟨tree.nodes.put place node⟩

/-- Follows parts from a place. All places but the last must be directories. -/
def follow (tree : FileTree) : Place → List String → Except Obstacle Place
  | place, [] => .ok place
  | place, part :: rest =>
    match tree.node? place with
    | none => .error .notFound
    | some (.file _) => .error .notDirectory
    | some .directory =>
      tree.follow (if part = ".." then Place.parent place else place ++ [part]) rest

def place? (tree : FileTree) (path : Path) : Except Obstacle Place :=
  tree.follow (if path.root.isEmpty then [] else ["/"]) path.parts

def nodeAt (tree : FileTree) (path : Path) : Except Obstacle Node := do
  let place ← tree.place? path
  match tree.node? place with
  | some node => return node
  | none => throw .notFound

def exists? (tree : FileTree) (path : Path) : Bool :=
  (tree.nodeAt path).isOk

def isDirectory (tree : FileTree) (path : Path) : Bool :=
  match tree.nodeAt path with
  | .ok .directory => true
  | _ => false

/-- Names the path in a failure. -/
def reportAt {α : Type} (path : Path) (result : Except Obstacle α) : Except FileFault α :=
  result.mapError (⟨·, path⟩)

def read (tree : FileTree) (path : Path) : Except FileFault (List UInt8) :=
  reportAt path do
    match ← tree.nodeAt path with
    | .file content => return content
    | .directory => throw .isDirectory

/-- The directory that holds a place must be there. -/
def checkParent (tree : FileTree) (place : Place) : Except Obstacle Unit :=
  match tree.node? (Place.parent place) with
  | some .directory => .ok ()
  | some (.file _) => .error .notDirectory
  | none => .error .notFound

def write (tree : FileTree) (path : Path) (content : List UInt8) : Except FileFault FileTree :=
  reportAt path do
    let place ← tree.place? path
    match tree.node? place with
    | some .directory => throw .isDirectory
    | _ =>
      tree.checkParent place
      return tree.put place (.file content)

/-- Makes a directory in one that is there. -/
def makeDirectory (tree : FileTree) (path : Path) : Except FileFault FileTree :=
  reportAt path do
    let place ← tree.place? path
    match tree.node? place with
    | some _ => throw .occupied
    | none =>
      tree.checkParent place
      return tree.put place .directory

/-- Makes a directory unless it is there. -/
def ensureDirectory (tree : FileTree) (path : Path) : Except FileFault FileTree :=
  match tree.makeDirectory path with
  | .ok made => .ok made
  | .error fault => if tree.isDirectory path then .ok tree else .error fault

/-- Makes a directory, and those above it that are missing. `above` counts the parts that may be
left off to find them. -/
def makeDirectoriesFrom (tree : FileTree) (path : Path) : (above : Nat) → Except FileFault FileTree
  | 0 => tree.ensureDirectory path
  | above + 1 =>
    match tree.ensureDirectory path with
    | .error ⟨.notFound, _⟩ => do
      let tree ← tree.makeDirectoriesFrom { path with parts := path.parts.dropLast } above
      tree.ensureDirectory path
    | result => result

def makeDirectories (tree : FileTree) (path : Path) : Except FileFault FileTree :=
  tree.makeDirectoriesFrom path path.parts.length

/-- Adds a file together with the directories above it. -/
def addFile (tree : FileTree) (place : Place) (content : List UInt8) : FileTree :=
  let above := (List.range (place.length - 1)).map fun size => place.take (size + 1)
  (above.foldl (fun tree place => tree.put place .directory) tree).put place (.file content)

def files (tree : FileTree) : List (Place × List UInt8) :=
  tree.nodes.filterMap fun
    | (place, .file content) => some (place, content)
    | _ => none

/-- The files that `before` does not hold with the same content. -/
def newFiles (before after : FileTree) : List (Place × List UInt8) :=
  after.files.filter fun (place, content) => before.node? place != some (.file content)

end FileTree

end Subgraph

/-
  ScriptTokenizer/CommandLine/Files.lean
  ======================================
  **Finding a file below a folder.**

  A listing names the files and folders below one folder, the one a run works
  in.  A path is followed component by component, from there or, if it begins
  with a slash, from the root: every component but the last must lead to a
  folder, an empty component and a single dot stay, and two dots go back.

  Of what lies outside of the listed folder little is known: at the root what
  every system has there, and above the listed folder nothing.  A name without
  an entry is not found, and a name that no entry can have is refused as such,
  wherever the path has led.
-/
import ScriptTokenizer.Input

namespace ScriptTokenizer.CommandLine

inductive Entry where
  | file (bytes : ByteArray)
  | folder

/-- The files and folders below one folder, by their components. -/
abbrev Files := List (List String × Entry)

namespace Files

/-- The longest component that a file system accepts, in bytes. -/
def maxComponent : Nat := 255

/-- The shortest path that a file system refuses, in bytes. -/
def maxPath : Nat := 4096

/-- The listing of entries whose paths are written with slashes. -/
def ofList (entries : List (String × Entry)) : Files :=
  entries.map fun (path, entry) => (path.splitOn "/", entry)

/-- What is at a place: an entry, a folder on the way to an entry, or nothing. -/
def at? (files : Files) (place : List String) : Option Entry :=
  match files.find? (fun (path, _) => path == place) with
  | some (_, entry) => some entry
  | none =>
    if place.isEmpty || files.any (fun (path, _) => place.isPrefixOf path) then some .folder
    else none

/-- What every system has below its root. -/
def system : Files :=
  ofList [("dev/null", .file ByteArray.empty), ("tmp", .folder)]

/-- Where the components of a place are counted from. -/
inductive Origin where
  | listed
  | above
  | root
deriving DecidableEq, Repr

/-- What is known below an origin. -/
def known (files : Files) : Origin → Files
  | .listed => files
  | .above => []
  | .root => system

/-- A place that a path has led to. -/
structure Place where
  origin : Origin
  components : List String
deriving DecidableEq, Repr

namespace Place

/-- The folder that two dots lead to.  The root is its own. -/
def parent : Place → Place
  | ⟨.listed, []⟩ => ⟨.above, []⟩
  | ⟨origin, components⟩ => ⟨origin, components.dropLast⟩

def child (place : Place) (name : String) : Place :=
  { place with components := place.components ++ [name] }

end Place

/-- Follow the components of a path from a place. -/
def follow (files : Files) (place : Place) : List String → Except InputError Entry
  | [] =>
      match (files.known place.origin).at? place.components with
      | some entry => .ok entry
      | none => .error .notFound
  | component :: rest =>
      match (files.known place.origin).at? place.components with
      | none => .error .notFound
      | some (.file _) => .error .notADirectory
      | some .folder =>
        if component = "" ∨ component = "." then follow files place rest
        else if component = ".." then follow files place.parent rest
        else if maxComponent < component.utf8ByteSize then .error .nameTooLong
        else follow files (place.child component) rest

def read (files : Files) (path : String) : Except InputError ByteArray :=
  if path = "" then .error .notFound
  else if maxPath ≤ path.utf8ByteSize then .error .nameTooLong
  else
    let origin := if path.toList.head? = some '/' then Origin.root else Origin.listed
    match files.follow ⟨origin, []⟩ (path.splitOn "/") with
    | .error error => .error error
    | .ok .folder => .error .isDirectory
    | .ok (.file bytes) => .ok bytes

end Files

end ScriptTokenizer.CommandLine

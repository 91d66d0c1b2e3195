import TableFeed.Error
import TableFeed.Text.Split
import TableFeed.Text.Utf8

/-!
# Files

The files that sources and the store are kept in: a working directory, in which a path names a file
or a directory. A path may lead out of it into the directories around it, which hold nothing else.
-/

namespace TableFeed

/-- What a path names. -/
inductive Node where
  | file (content : List UInt8)
  | directory
  deriving DecidableEq, Repr

/-- A working directory: the files and directories in it, each under the parts of its path. -/
structure Files where
  nodes : List (List (List Char) × Node) := []
  deriving Repr

namespace Files

/-- The parts of a path. -/
abbrev Parts := List (List Char)

/-- The longest name of a file, in bytes. -/
def maxName : Nat := 255

/-- The length, in bytes, that every path stays below. -/
def maxPath : Nat := 4096

/-- What some parts name; none of them is the working directory. -/
def node? (f : Files) (parts : Parts) : Option Node :=
  if parts = [] then some .directory else f.nodes.lookup parts

/-- Follows a path from a directory, or from around the working directory: the parts of what it
names. Every part but the last has to be a directory, and the last one too if the path goes on
behind it. -/
def follow (f : Files) : Option Parts → Parts → Except FileError Parts
  | none, [] => .error .isDirectory
  | none, name :: rest =>
    if name = [] ∨ name = ['.'] ∨ name = ['.', '.'] then f.follow none rest
    else if maxName < (Utf8.encode name).length then .error .nameTooLong
    else .error .notFound
  | some place, [] => .ok place
  | some place, name :: rest =>
    match f.node? place with
    | none => .error .notFound
    | some (.file _) => .error .notDirectory
    | some .directory =>
      if name = [] ∨ name = ['.'] then f.follow place rest
      else if name = ['.', '.'] then
        f.follow (if place = [] then none else some place.dropLast) rest
      else if maxName < (Utf8.encode name).length then .error .nameTooLong
      else f.follow (place ++ [name]) rest

/-- Where a path starts, and the names in it. -/
def names (path : String) : Except FileError (Option Parts × Parts) :=
  let cs := path.toList
  if cs = [] then .error .notFound
  else if cs.contains '\x00' then .error .nulInName
  else if maxPath ≤ (Utf8.encode cs).length then .error .nameTooLong
  else .ok (if cs.head? = some '/' then none else some [], Split.every (· = '/') cs)

/-- The parts of what a path names, whether it exists or not. -/
def resolve (f : Files) (path : String) : Except FileError Parts := do
  let (start, names) ← names path
  f.follow start names

/-- The content of a file. -/
def read (f : Files) (path : String) : Except FileError (List UInt8) := do
  match f.node? (← f.resolve path) with
  | none => throw .notFound
  | some .directory => throw .isDirectory
  | some (.file content) => return content

/-- The text of a file. -/
def readText (f : Files) (path : String) : Except FileError String := do
  match Utf8.decode? (← f.read path) with
  | some s => return s
  | none => throw .notText

/-- The nodes with one set. -/
def setNode (parts : Parts) (node : Node) :
    List (List (List Char) × Node) → List (List (List Char) × Node)
  | [] => [(parts, node)]
  | (p, n) :: rest => if p = parts then (p, node) :: rest else (p, n) :: setNode parts node rest

/-- The parts of a file that may have to be made. A path with a slash at its end names none, once
the directory that its last name stands in exists. -/
def resolveNew (f : Files) (path : String) : Except FileError Parts := do
  let (start, names) ← names path
  if names.getLast? = some [] then
    let parent := (names.reverse.dropWhile (· = [])).tail.reverse
    let _ ← f.follow start (parent ++ [[]])
    throw .isDirectory
  f.follow start names

/-- Replaces the content of a file, which is made if need be. -/
def write (f : Files) (path : String) (content : List UInt8) : Except FileError Files := do
  let parts ← f.resolveNew path
  match f.node? parts with
  | some .directory => throw .isDirectory
  | some (.file _) => return ⟨setNode parts (.file content) f.nodes⟩
  | none =>
    match f.node? parts.dropLast with
    | none => throw .notFound
    | some (.file _) => throw .notDirectory
    | some .directory => return ⟨setNode parts (.file content) f.nodes⟩

/-- Adds to the end of a file, which is made if need be. -/
def append (f : Files) (path : String) (content : List UInt8) : Except FileError Files :=
  let before := match f.read path with
    | .ok bytes => bytes
    | .error _ => []
  f.write path (before ++ content)

/-- Removes a file. -/
def remove (f : Files) (path : String) : Except FileError Files := do
  let parts ← f.resolve path
  match f.node? parts with
  | none => throw .notFound
  | some .directory => throw .isDirectory
  | some (.file _) => return ⟨f.nodes.filter (·.1 ≠ parts)⟩

/-- Makes a directory. -/
def makeDirectory (f : Files) (path : String) : Except FileError Files := do
  let parts ← f.resolve path
  return ⟨setNode parts .directory f.nodes⟩

end Files

end TableFeed

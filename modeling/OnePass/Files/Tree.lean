import OnePass.Encoding.Scheme
import OnePass.Table
import OnePass.Text.ByteLength

/-!
# File trees

Files and directories below a root, and the working directory from which relative paths start. A
path is followed name by name; what is in the way decides which error arises.
-/

namespace OnePass

inductive PathError where
  | notFound
  | notDirectory
  | isDirectory
  | nameTooLong
deriving DecidableEq, Repr

namespace PathError

/-- The number of a path error. -/
def number : PathError → Nat
  | .notFound => 2
  | .notDirectory => 20
  | .isDirectory => 21
  | .nameTooLong => 36

def reason : PathError → Text
  | .notFound => "No such file or directory"
  | .notDirectory => "Not a directory"
  | .isDirectory => "Is a directory"
  | .nameTooLong => "File name too long"

def report (e : PathError) (path : Text) : Text :=
  "[Errno " ++ Text.ofNat e.number ++ "] " ++ e.reason ++ ": " ++ Text.quoted path

end PathError

/-- What a name in a directory stands for. -/
inductive Node where
  | file (content : Bytes)
  | directory
deriving DecidableEq, Repr

/-- A tree of files. A place in it is given by the names on the way from the root. -/
structure FileTree where
  /-- The nodes by their places; the root is not listed. -/
  nodes : Table (List Text) Node := Table.empty
  /-- The place from which relative paths start. -/
  workingDirectory : List Text := []

/-- The longest name, in bytes. -/
def maxName : Nat := 255

/-- A path of this many bytes is too long. -/
def pathLimit : Nat := 4096

namespace FileTree

def node? (t : FileTree) (place : List Text) : Option Node :=
  if place = [] then some .directory else t.nodes.find? place

/-- Adds a directory together with the directories above it. -/
def addDirectory (t : FileTree) (place : List Text) : FileTree :=
  (List.range place.length).foldl (fun t n =>
    let above := place.take (n + 1)
    if (t.node? above).isSome then t
    else { t with nodes := t.nodes.insert above .directory }) t

def putFile (t : FileTree) (place : List Text) (content : Bytes) : FileTree :=
  { t with nodes := t.nodes.insert place (.file content) }

/-- Writes a file together with the directories above it. -/
def addFile (t : FileTree) (place : List Text) (content : Bytes) : FileTree :=
  (t.addDirectory place.dropLast).putFile place content

/-- Follows names from a place. Every node but the last must be a directory. -/
def follow (t : FileTree) (place : List Text) : List Text → Except PathError (List Text × Node)
  | [] => match t.node? place with
    | some node => .ok (place, node)
    | none => .error .notFound
  | name :: rest => match t.node? place with
    | none => .error .notFound
    | some (.file _) => .error .notDirectory
    | some .directory =>
      if name = ['.'] then t.follow place rest
      else if name = ['.', '.'] then t.follow place.dropLast rest
      else if maxName < Text.byteLength name then .error .nameTooLong
      else t.follow (place ++ [name]) rest

/-- The place from which a path starts. -/
def origin (t : FileTree) (path : Text) : List Text :=
  if path.head? = some '/' then [] else t.workingDirectory

def names (path : Text) : List Text := (Text.pieces '/' path).filter (· ≠ [])

/-- Whether the system accepts the text of a path at all. -/
def checkPath (path : Text) : Except PathError Unit :=
  if path = [] then .error .notFound
  else if pathLimit ≤ Text.byteLength path then .error .nameTooLong
  else .ok ()

/-- Follows a path. A slash at its end demands a directory. -/
def find (t : FileTree) (path : Text) : Except PathError (List Text × Node) :=
  match checkPath path with
  | .error e => .error e
  | .ok () =>
    t.follow (t.origin path) (names path ++ if path.getLast? = some '/' then [['.']] else [])

def read (t : FileTree) (path : Text) : Except PathError Bytes :=
  match t.find path with
  | .ok (_, .file content) => .ok content
  | .ok (_, .directory) => .error .isDirectory
  | .error e => .error e

def isDirectory (t : FileTree) (path : Text) : Bool :=
  match t.find path with
  | .ok (_, .directory) => true
  | _ => false

/-- The place of the file that is written at a path, be it there already or not. -/
def destination (t : FileTree) (path : Text) : Except PathError (List Text) :=
  match checkPath path with
  | .error e => .error e
  | .ok () => match (names path).getLast? with
    | none => .error .isDirectory
    | some name => match t.follow (t.origin path) (names path).dropLast with
      | .error e => .error e
      | .ok (_, .file _) => .error .notDirectory
      | .ok (place, .directory) =>
        -- The last name is looked at only now: a fault on the way to it comes first.
        if name = ['.'] ∨ name = ['.', '.'] ∨ path.getLast? = some '/' then .error .isDirectory
        else if maxName < Text.byteLength name then .error .nameTooLong
        else match t.node? (place ++ [name]) with
          | some .directory => .error .isDirectory
          | _ => .ok (place ++ [name])

/-- The files that are new or changed, with their places. -/
def changes (before after : FileTree) : List (List Text × Bytes) :=
  after.nodes.entries.filterMap fun e => match e.2 with
    | .directory => none
    | .file content => if before.node? e.1 = some e.2 then none else some (e.1, content)

/-- The path from the working directory to a place below it. -/
def relativePath? (t : FileTree) (place : List Text) : Option Text :=
  if t.workingDirectory <+: place then
    some (Text.join ['/'] (place.drop t.workingDirectory.length))
  else none

end FileTree

end OnePass

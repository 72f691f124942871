import OnePass.Files.Tree
import OnePass.Source

/-!
# Text files

A text file is opened by a path and the name of an encoding. Reading yields a source. Writing goes
piece by piece: the file exists and is empty as soon as it has been opened, and when a piece cannot
be encoded the pieces before it stay.
-/

namespace OnePass

inductive OpenError where
  /-- The name of the encoding holds the null character. -/
  | nullInEncoding
  /-- The path holds the null character. -/
  | nullInPath
  | path (error : PathError)
  | encoding (error : EncodingError)
deriving DecidableEq, Repr

inductive WriteError where
  | unopened (error : OpenError)
  | unencodable (fault : EncodeFault)
deriving DecidableEq, Repr

def OpenError.message (path : Text) : OpenError → Text
  | .nullInEncoding => "embedded null character"
  | .nullInPath => "embedded null byte"
  | .path error => error.report path
  | .encoding error => error.message

def WriteError.message (path : Text) : WriteError → Text
  | .unopened error => error.message path
  | .unencodable fault => fault.message

/-- Refuses null characters. -/
def checkNames (path encoding : Text) : Except OpenError Unit :=
  if '\x00' ∈ encoding then .error .nullInEncoding
  else if '\x00' ∈ path then .error .nullInPath
  else .ok ()

/-- The bytes of pieces written one after the other up to the first that cannot be encoded. -/
def Scheme.encodeAll (s : Scheme) : List Text → Bytes × Option EncodeFault
  | [] => ([], none)
  | piece :: rest => match s.encode piece with
    | .error fault => ([], some fault)
    | .ok bytes =>
      let (later, fault) := s.encodeAll rest
      (bytes ++ later, fault)

namespace FileTree

def readText (t : FileTree) (path encoding : Text) : Except OpenError Source :=
  match checkNames path encoding with
  | .error e => .error e
  | .ok () => match t.read path with
    | .error e => .error (.path e)
    | .ok bytes => match Encoding.ofName encoding with
      | .error e => .error (.encoding e)
      | .ok e => .ok (Source.ofBytes e bytes)

/-- Writes pieces of text to the file at a path, in place of what it held. -/
def writeText (t : FileTree) (path encoding : Text) (pieces : List Text) :
    FileTree × Option WriteError :=
  match checkNames path encoding with
  | .error e => (t, some (.unopened e))
  | .ok () => match t.destination path with
    | .error e => (t, some (.unopened (.path e)))
    | .ok place => match Encoding.ofName encoding with
      | .error e => (t.putFile place [], some (.unopened (.encoding e)))
      | .ok e =>
        let (bytes, fault) := e.writer.encodeAll pieces
        (t.putFile place (e.mark ++ bytes), fault.map .unencodable)

end FileTree

end OnePass

import OnePass.Encoding.Scheme
import OnePass.Text.ByteLength

/-!
# Encodings and their names

An encoding is a scheme together with what may stand at the start of a file: nothing, a signature,
or a mark that tells the byte order. Encodings are chosen by name; spelling and punctuation of the
names are free, and most encodings have several names.

Seven encodings are covered: ASCII, Latin-1, UTF-8 with and without a signature, and UTF-16 with a
mark and in either byte order. Besides these, the names of two conversions that cannot be used for
text files are known, `hex` and `rot13`. Any other name counts as unknown, also where a system has
an encoding of that name.
-/

namespace OnePass

/-- An encoding of text files. -/
inductive Encoding where
  /-- A scheme, and nothing else in the file. -/
  | plain (scheme : Scheme)
  /-- UTF-8 with a signature at the start; reading does not insist on it. -/
  | signedUtf8
  /-- UTF-16 in the order told by a byte-order mark at the start. -/
  | markedUtf16
deriving DecidableEq, Repr

/-- What a name that is known stands for. -/
inductive Codec where
  | text (encoding : Encoding)
  /-- A conversion between texts or between bytes, of no use for reading a text file. -/
  | conversion
deriving DecidableEq, Repr

/-- Why a file cannot be opened in an encoding. -/
inductive EncodingError where
  | unknown (name : Text)
  | notText (name : Text)
deriving DecidableEq, Repr

/-- The room, in bytes, that a message has for the name of an encoding that is not for text. -/
def nameRoom : Nat := 400

/-- The wording of an encoding error. A long name that is known is clipped, an unknown one is not. -/
def EncodingError.message : EncodingError → Text
  | .unknown name => "unknown encoding: " ++ name
  | .notText name =>
    "'" ++ Text.clip nameRoom name ++ "' is not a text encoding; use codecs.open() to handle arbitrary codecs"

/-- Whether a character of an encoding's name counts: the letters and digits of ASCII and the full
stop. -/
def isNameCharacter (c : Char) : Bool := c.isAlphanum || c == '.'

/-- The name of an encoding without regard to case and punctuation: its words in lower case with an
underscore between them. -/
def encodingKey (name : Text) : Text :=
  let spaced := name.map fun c => if isNameCharacter c then c.toLower else ' '
  Text.join "_" ((Text.pieces ' ' spaced).filter (· ≠ []))

def encodingNames : List (Text × Codec) :=
  [("utf_8", .text (.plain .utf8)), ("utf_8_sig", .text .signedUtf8),
   ("latin_1", .text (.plain .latin1)), ("ascii", .text (.plain .ascii)),
   ("utf_16", .text .markedUtf16), ("utf_16_le", .text (.plain (.utf16 .little))),
   ("utf_16_be", .text (.plain (.utf16 .big))), ("hex_codec", .conversion),
   ("rot_13", .conversion)]

def encodingAliases : List (Text × Codec) :=
  let utf8 := ["u8", "utf", "utf8", "utf8_ucs2", "utf8_ucs4", "cp65001"]
  let latin1 := ["8859", "cp819", "csisolatin1", "ibm819", "iso8859", "iso8859_1", "iso_8859_1",
    "iso_8859_1_1987", "iso_ir_100", "l1", "latin", "latin1"]
  let ascii := ["646", "ansi_x3.4_1968", "ansi_x3_4_1968", "ansi_x3.4_1986", "cp367", "csascii",
    "ibm367", "iso646_us", "iso_646.irv_1991", "iso_ir_6", "us", "us_ascii"]
  let utf16 := ["u16", "utf16"]
  let utf16le := ["unicodelittleunmarked", "utf_16le"]
  let utf16be := ["unicodebigunmarked", "utf_16be"]
  let conversions := ["hex", "rot13"]
  let named (codec : Codec) (names : List String) : List (Text × Codec) :=
    names.map fun n => (n.toList, codec)
  named (.text (.plain .utf8)) utf8 ++ named (.text (.plain .latin1)) latin1 ++
    named (.text (.plain .ascii)) ascii ++ named (.text .markedUtf16) utf16 ++
    named (.text (.plain (.utf16 .little))) utf16le ++
    named (.text (.plain (.utf16 .big))) utf16be ++ named .conversion conversions

/-- What a name stands for, if it is known. A full stop in the name of an alias may stand for an
underscore. -/
def Codec.ofName? (name : Text) : Option Codec :=
  let key := encodingKey name
  let spelled := key.map fun c => if c = '.' then '_' else c
  (encodingAliases.lookup key).or ((encodingAliases.lookup spelled).or (encodingNames.lookup key))

def Encoding.ofName (name : Text) : Except EncodingError Encoding :=
  match Codec.ofName? name with
  | some (.text encoding) => .ok encoding
  | some .conversion => .error (.notText name)
  | none => .error (.unknown name)

namespace Encoding

/-- The bytes written at the start of a file. -/
def mark : Encoding → Bytes
  | .plain _ => []
  | .signedUtf8 => [0xEF, 0xBB, 0xBF]
  | .markedUtf16 => [0xFF, 0xFE]

/-- The scheme used to write a file. -/
def writer : Encoding → Scheme
  | .plain scheme => scheme
  | .signedUtf8 => .utf8
  | .markedUtf16 => .utf16 .little

/-- A whole text as the content of a file. -/
def encode (e : Encoding) (text : Text) : Except EncodeFault Bytes :=
  (e.writer.encode text).map (e.mark ++ ·)

end Encoding

end OnePass

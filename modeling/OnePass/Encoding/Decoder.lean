import OnePass.Encoding.Name

/-!
# Decoding a file block by block

The bytes of a file arrive in blocks. A character whose bytes are spread over two blocks is held
back until its last byte arrives; the end of the file is an empty block after which nothing comes.
The start of a file may first have to tell which scheme is in use.
-/

namespace OnePass

/-- Why the reading of a file stops before its end. -/
inductive ReadFault where
  | undecodable (fault : DecodeFault)
  /-- The file has no byte-order mark and its encoding needs one. -/
  | noByteOrderMark
deriving DecidableEq, Repr

/-- What a decoder knows about the scheme. -/
inductive Phase where
  | decided (scheme : Scheme)
  /-- A signature may come first. -/
  | beforeSignature
  /-- A byte-order mark must come first. -/
  | beforeMark
deriving DecidableEq, Repr

/-- A decoder between two blocks: the phase, and the bytes held back. -/
structure Decoder where
  phase : Phase
  held : Bytes := []
deriving DecidableEq, Repr

def signature : Bytes := [0xEF, 0xBB, 0xBF]

namespace Decoder

def start : Encoding → Decoder
  | .plain scheme => ⟨.decided scheme, []⟩
  | .signedUtf8 => ⟨.beforeSignature, []⟩
  | .markedUtf16 => ⟨.beforeMark, []⟩

/-- Decodes bytes by a scheme that is known from now on. -/
def decodeBy (scheme : Scheme) (final : Bool) (position : Nat) (bytes : Bytes) :
    Except ReadFault (Text × Decoder) :=
  match scheme.decodeFrom final position bytes with
  | .ok (text, held) => .ok (text, ⟨.decided scheme, held⟩)
  | .error fault => .error (.undecodable fault)

/-- The text that a further block adds, and the decoder after it. Positions count from the first
byte held back; a signature does not count, a byte-order mark does. -/
def feed (d : Decoder) (block : Bytes) (final : Bool) : Except ReadFault (Text × Decoder) :=
  let bytes := d.held ++ block
  match d.phase with
  | .decided scheme => decodeBy scheme final 0 bytes
  | .beforeSignature =>
    if bytes.length < 3 ∧ bytes <+: signature then .ok ([], ⟨.beforeSignature, bytes⟩)
    else if signature <+: bytes then decodeBy .utf8 final 0 (bytes.drop 3)
    else decodeBy .utf8 final 0 bytes
  | .beforeMark =>
    match bytes with
    | 0xFF :: 0xFE :: rest => decodeBy (.utf16 .little) final 2 rest
    | 0xFE :: 0xFF :: rest => decodeBy (.utf16 .big) final 2 rest
    | _ =>
      -- Without a mark the bytes are decoded all the same: the mark is missed once there is text.
      match (Scheme.utf16 .little).decodeFrom final 0 bytes with
      | .error fault => .error (.undecodable fault)
      | .ok ([], _) => .ok ([], ⟨.beforeMark, bytes⟩)
      | .ok (_ :: _, _) => .error .noByteOrderMark

end Decoder

end OnePass

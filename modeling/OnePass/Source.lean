import OnePass.Encoding.Decoder
import OnePass.Text.LineBreak

/-!
# Sources

A source is what reading a program text yields: the raw lines that it delivers one after the other
and, if the reading breaks off, the fault that ends it. A text in memory delivers all its lines. A
file is read in blocks and decoded block by block; a line is delivered as soon as its ending is
certain, and a fault is met only after all lines certain before its block.
-/

namespace OnePass

/-- The lines that a source delivers, and the fault that is met after them. -/
structure Source where
  lines : List Text
  fault : Option ReadFault := none
deriving DecidableEq, Repr

namespace Source

/-- A text in memory, cut into its lines. -/
def ofText (s : Text) : Source := ⟨Text.sourceLines s, none⟩

/-- How many bytes of a file are read at a time. -/
def blockSize : Nat := 8192

/-- The bytes of a file in blocks of the given size, the last one possibly shorter. -/
def blocks (size : Nat) (bytes : Bytes) : List Bytes :=
  if _h : size = 0 ∨ bytes = [] then []
  else bytes.take size :: blocks size (bytes.drop size)
termination_by bytes.length
decreasing_by
  simp only [not_or] at _h
  have := List.length_pos_iff.mpr _h.2
  simp only [List.length_drop]
  omega

/-- What the remaining blocks of a file deliver, given the decoder and the text held back because
its last line may go on. -/
def ofBlocks (d : Decoder) (held : Text) : List Bytes → Source
  | [] =>
    -- The end of the file decides what the bytes held back are.
    match d.feed [] true with
    | .ok (text, _) => ⟨Text.sourceLines (held ++ text), none⟩
    | .error fault => ⟨[], some fault⟩
  | block :: rest =>
    match d.feed block false with
    | .ok (text, d') =>
      let (lines, held') := Text.completeLines (held ++ text)
      let later := ofBlocks d' held' rest
      ⟨lines ++ later.lines, later.fault⟩
    | .error fault => ⟨[], some fault⟩

/-- What a file delivers when it is read in an encoding. -/
def ofBytes (encoding : Encoding) (bytes : Bytes) : Source :=
  ofBlocks (Decoder.start encoding) [] (blocks blockSize bytes)

end Source

end OnePass

import OnePass.Proofs.BlockDecoding
import OnePass.Proofs.FileFailures

/-!
# Files that hold a text

A file whose bytes are a text in the encoding of the settings is assembled as this text is: with
the same failure or none, and with the same session and results afterwards. Only the note that the
file is opened comes on top.
-/

namespace OnePass.Proofs

/-- A file is assembled as a text is: what fails, the lines taken, and the session, results and
completeness left on the assembler are the same. -/
structure FaresAs (file text : Assembly) (path : Text) : Prop where
  failure : file.failure = text.failure
  assembler : file.assembler = text.assembler
  linesRead : file.linesRead = text.linesRead
  events : file.events = .opening path :: text.events

variable {a : Assembler} {files : FileTree} {path text : Text} {e : Encoding} {bytes : Bytes}

lemma readText_of_encode {config : Config} (valid : config.Valid) (hpath : '\x00' ∉ path)
    (hencoding : Encoding.ofName config.encoding = .ok e) (hbytes : e.encode text = .ok bytes)
    (hread : files.read path = .ok bytes) :
    files.readText path config.encoding = .ok (Source.ofText text) := by
  rw [readText_of_read valid hpath hencoding hread, ofBytes_encode hbytes]

/-- A readable file fares as the text that its bytes encode, however long it is and wherever its
blocks end. -/
theorem assembleFile_faresAs_assembleText (a : Assembler) (valid : a.config.Valid)
    (files : FileTree) (path : Text) (hpath : '\x00' ∉ path) (text : Text) (e : Encoding)
    (hencoding : Encoding.ofName a.config.encoding = .ok e) (bytes : Bytes)
    (hbytes : e.encode text = .ok bytes)
    (hread : files.read (Path.ofText path).toText = .ok bytes) :
    FaresAs (a.assembleFile files path) (a.assembleText text (Path.ofText path).toText)
      (Path.ofText path).toText := by
  have hsource := readText_of_encode valid (null_not_mem_toText hpath) hencoding hbytes hread
  unfold Assembler.assembleFile
  simp only [hsource]
  exact ⟨rfl, rfl, rfl, rfl⟩

/-- Two labels in UTF-16 with a byte-order mark, one of them a surrogate pair, below a path that is
not in its normal form. -/
theorem marked_file_fares_as_text :
    let a : Assembler := { config := { encoding := "UTF-16" } }
    let bytes : Bytes := [0xFF, 0xFE, 0x61, 0x00, 0x3A, 0x00, 0x0D, 0x00, 0x0A, 0x00, 0x3D, 0xD8,
      0x00, 0xDE, 0x3A, 0x00]
    let files := ({} : FileTree).addFile [['d'], ['p']] bytes
    let text : Text := ['a', ':', '\r', '\n', Char.ofNat 0x1F600, ':']
    a.config.Valid ∧ '\x00' ∉ "./d//p".toList ∧
      Encoding.ofName a.config.encoding = .ok .markedUtf16 ∧
      Encoding.encode .markedUtf16 text = .ok bytes ∧
      files.read (Path.ofText "./d//p").toText = .ok bytes ∧
      FaresAs (a.assembleFile files "./d//p")
        (a.assembleText text (Path.ofText "./d//p").toText) (Path.ofText "./d//p").toText := by
  intro a bytes files text
  have valid : a.config.Valid := by decide +kernel
  have hpath : '\x00' ∉ "./d//p".toList := by decide
  have hencoding : Encoding.ofName a.config.encoding = .ok .markedUtf16 := by decide +kernel
  have hbytes : Encoding.encode .markedUtf16 text = .ok bytes := by decide +kernel
  have hread : files.read (Path.ofText "./d//p").toText = .ok bytes := by decide +kernel
  exact ⟨valid, hpath, hencoding, hbytes, hread, assembleFile_faresAs_assembleText a valid files
    "./d//p" hpath text .markedUtf16 hencoding bytes hbytes hread⟩

end OnePass.Proofs

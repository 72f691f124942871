import OnePass.Text.Quoted

/-!
# Encoding schemes

A scheme says which bytes stand for a character. Reading goes one character at a time: at the start
of some bytes a scheme finds a character, or bytes that no character of it begins with, or too few
bytes to tell. Writing is the inverse of reading a character.
-/

namespace OnePass

abbrev Bytes := List UInt8

inductive ByteOrder where
  | little
  | big
deriving DecidableEq, Repr

/-- A way to write characters as bytes. -/
inductive Scheme where
  | utf8
  | latin1
  | ascii
  | utf16 (order : ByteOrder)
deriving DecidableEq, Repr

inductive Damage where
  | startByte
  | continuationByte
  | notAscii
  | unpairedHigh
  | unpairedLow
  | truncated
  | unexpectedEnd
deriving DecidableEq, Repr

def Damage.message : Damage → Text
  | .startByte => "invalid start byte"
  | .continuationByte => "invalid continuation byte"
  | .notAscii => "ordinal not in range(128)"
  | .unpairedHigh => "illegal UTF-16 surrogate"
  | .unpairedLow => "illegal encoding"
  | .truncated => "truncated data"
  | .unexpectedEnd => "unexpected end of data"

/-- What stands at the start of some bytes. -/
inductive Reading where
  /-- A character, and the number of its bytes. -/
  | char (c : Char) (size : Nat)
  /-- The bytes end too early to tell; how many of them are damaged, and how, if no more come. -/
  | incomplete (size : Nat) (damage : Damage)
  /-- A number of bytes that no character begins with. -/
  | bad (size : Nat) (damage : Damage)
deriving DecidableEq, Repr

/-- Reads the `n` continuation bytes of a character of which `size` bytes have been read, `code`
being the number they make up. -/
def readContinuation (size code : Nat) : Nat → Bytes → Reading
  | 0, _ => .char (Char.ofNat code) size
  | _ + 1, [] => .incomplete size .unexpectedEnd
  | n + 1, b :: rest =>
    if 0x80 ≤ b.toNat ∧ b.toNat ≤ 0xBF then
      readContinuation (size + 1) (code * 0x40 + (b.toNat - 0x80)) n rest
    else .bad size .continuationByte

/-- Reads the second byte of a character, which must lie between the given bounds, and then `n`
continuation bytes; `code` is the number that the first byte contributes. -/
def readSecond (code low high n : Nat) : Bytes → Reading
  | [] => .incomplete 1 .unexpectedEnd
  | b :: rest =>
    if low ≤ b.toNat ∧ b.toNat ≤ high then
      readContinuation 2 (code * 0x40 + (b.toNat - 0x80)) n rest
    else .bad 1 .continuationByte

/-- Reads what follows the first byte of the characters from U+D000 on. A second byte that can only
belong to a surrogate is refused as soon as a third byte has arrived. -/
def readBelowSurrogates : Bytes → Reading
  | [b] =>
    if 0xA0 ≤ b.toNat ∧ b.toNat ≤ 0xBF then .incomplete 1 .continuationByte
    else readSecond 0xD 0x80 0x9F 1 [b]
  | rest => readSecond 0xD 0x80 0x9F 1 rest

/-- Reads one character in UTF-8. The bounds on the second byte rule out long forms, surrogates
and numbers beyond the last code point. -/
def readUtf8 : Bytes → Reading
  | [] => .incomplete 0 .unexpectedEnd
  | b :: rest =>
    let a := b.toNat
    if a < 0x80 then .char (Char.ofNat a) 1
    -- The next two could only begin a long form of an ASCII character.
    else if a < 0xC2 then .bad 1 .startByte
    else if a < 0xE0 then readSecond (a - 0xC0) 0x80 0xBF 0 rest
    else if a = 0xE0 then readSecond 0 0xA0 0xBF 1 rest
    else if a = 0xED then readBelowSurrogates rest
    else if a < 0xF0 then readSecond (a - 0xE0) 0x80 0xBF 1 rest
    else if a = 0xF0 then readSecond 0 0x90 0xBF 2 rest
    else if a < 0xF4 then readSecond (a - 0xF0) 0x80 0xBF 2 rest
    else if a = 0xF4 then readSecond 4 0x80 0x8F 2 rest
    else .bad 1 .startByte

/-- The number that a pair of bytes makes up. -/
def ByteOrder.join : ByteOrder → UInt8 → UInt8 → Nat
  | .little, a, b => a.toNat + 0x100 * b.toNat
  | .big, a, b => 0x100 * a.toNat + b.toNat

/-- Reads one character in UTF-16: one unit, or a high surrogate and a low one. -/
def readUtf16 (order : ByteOrder) : Bytes → Reading
  | [] => .incomplete 0 .unexpectedEnd
  | [_] => .incomplete 1 .truncated
  | a :: b :: rest =>
    let unit := order.join a b
    if unit < 0xD800 ∨ 0xE000 ≤ unit then .char (Char.ofNat unit) 2
    else if 0xDC00 ≤ unit then .bad 2 .unpairedLow
    else match rest with
      | c :: d :: _ =>
        let low := order.join c d
        if 0xDC00 ≤ low ∧ low < 0xE000 then
          .char (Char.ofNat (0x10000 + (unit - 0xD800) * 0x400 + (low - 0xDC00))) 4
        else .bad 2 .unpairedHigh
      | _ => .incomplete (2 + rest.length) .unexpectedEnd

namespace Scheme

def name : Scheme → Text
  | .utf8 => "utf-8"
  | .latin1 => "latin-1"
  | .ascii => "ascii"
  | .utf16 .little => "utf-16-le"
  | .utf16 .big => "utf-16-be"

def read : Scheme → Bytes → Reading
  | .utf8, bytes => readUtf8 bytes
  | .latin1, [] => .incomplete 0 .unexpectedEnd
  | .latin1, b :: _ => .char (Char.ofNat b.toNat) 1
  | .ascii, [] => .incomplete 0 .unexpectedEnd
  | .ascii, b :: _ => if b.toNat < 0x80 then .char (Char.ofNat b.toNat) 1 else .bad 1 .notAscii
  | .utf16 order, bytes => readUtf16 order bytes

/-- How many characters a scheme can write, counted from the first code point; `none` if it can
write all of them. -/
def limit? : Scheme → Option Nat
  | .ascii => some 128
  | .latin1 => some 256
  | _ => none

def canWrite (s : Scheme) (c : Char) : Bool :=
  match s.limit? with
  | some n => decide (c.toNat < n)
  | none => true

end Scheme

/-- The two bytes of a number below 65536. -/
def ByteOrder.split : ByteOrder → Nat → Bytes
  | .little, n => [UInt8.ofNat (n % 0x100), UInt8.ofNat (n / 0x100)]
  | .big, n => [UInt8.ofNat (n / 0x100), UInt8.ofNat (n % 0x100)]

def writeUtf8 (c : Char) : Bytes :=
  let n := c.toNat
  if n < 0x80 then [UInt8.ofNat n]
  else if n < 0x800 then [UInt8.ofNat (0xC0 + n / 0x40), UInt8.ofNat (0x80 + n % 0x40)]
  else if n < 0x10000 then
    [UInt8.ofNat (0xE0 + n / 0x1000), UInt8.ofNat (0x80 + n / 0x40 % 0x40),
      UInt8.ofNat (0x80 + n % 0x40)]
  else
    [UInt8.ofNat (0xF0 + n / 0x40000), UInt8.ofNat (0x80 + n / 0x1000 % 0x40),
      UInt8.ofNat (0x80 + n / 0x40 % 0x40), UInt8.ofNat (0x80 + n % 0x40)]

def writeUtf16 (order : ByteOrder) (c : Char) : Bytes :=
  let n := c.toNat
  if n < 0x10000 then order.split n
  else order.split (0xD800 + (n - 0x10000) / 0x400) ++ order.split (0xDC00 + (n - 0x10000) % 0x400)

/-- The bytes of a character that the scheme can write. -/
def Scheme.writeChar : Scheme → Char → Bytes
  | .utf8, c => writeUtf8 c
  | .latin1, c => [UInt8.ofNat c.toNat]
  | .ascii, c => [UInt8.ofNat c.toNat]
  | .utf16 order, c => writeUtf16 order c

/-- Bytes that are not text: where they are, which they are and what is wrong with them. -/
structure DecodeFault where
  scheme : Scheme
  position : Nat
  bytes : Bytes
  damage : Damage
deriving DecidableEq, Repr

def DecodeFault.message (f : DecodeFault) : Text :=
  let subject : Text := match f.bytes with
    | [b] => "byte 0x" ++ Text.hexDigits 2 b.toNat ++ " in position " ++ Text.ofNat f.position
    | bytes => "bytes in position " ++ Text.ofNat f.position ++ "-" ++
        Text.ofNat (f.position + bytes.length - 1)
  "'" ++ f.scheme.name ++ "' codec can't decode " ++ subject ++ ": " ++ f.damage.message

/-- The text of some bytes, the first of which is at the given position, and the bytes left over.
Bytes are left over only if more may come (`final` is false) and they begin a character. -/
def Scheme.decodeFrom (s : Scheme) (final : Bool) (position : Nat) :
    Bytes → Except DecodeFault (Text × Bytes)
  | [] => .ok ([], [])
  | b :: rest =>
    match s.read (b :: rest) with
    | .char c size =>
      match s.decodeFrom final (position + size) (rest.drop (size - 1)) with
      | .ok (text, left) => .ok (c :: text, left)
      | .error f => .error f
    | .incomplete size damage =>
      if final then .error ⟨s, position, (b :: rest).take size, damage⟩ else .ok ([], b :: rest)
    | .bad size damage => .error ⟨s, position, (b :: rest).take size, damage⟩
termination_by bytes => bytes.length
decreasing_by
  simp only [List.length_drop, List.length_cons]
  omega

/-- A run of characters that a scheme cannot write: where it starts and which characters. -/
structure EncodeFault where
  scheme : Scheme
  position : Nat
  characters : Text
deriving DecidableEq, Repr

def EncodeFault.message (f : EncodeFault) : Text :=
  let subject : Text := match f.characters with
    | [c] => "character '" ++ Text.codePointEscape c ++ "' in position " ++ Text.ofNat f.position
    | characters => "characters in position " ++ Text.ofNat f.position ++ "-" ++
        Text.ofNat (f.position + characters.length - 1)
  "'" ++ f.scheme.name ++ "' codec can't encode " ++ subject ++ ": ordinal not in range(" ++
    Text.ofNat (f.scheme.limit?.getD 0) ++ ")"

/-- The bytes of a text, or the first run of characters in it that cannot be written. -/
def Scheme.encode (s : Scheme) (text : Text) : Except EncodeFault Bytes :=
  if text.all s.canWrite then .ok (text.flatMap s.writeChar)
  else
    let bad := text.dropWhile s.canWrite
    .error ⟨s, text.length - bad.length, bad.takeWhile fun c => !s.canWrite c⟩

end OnePass

/-!
# Texts of any bytes

Bytes that are not UTF-8 are shown with a mark, the replacement character, for every piece that is
no character.  A piece is as long as it could be the start of a character: a first byte with those
bytes after it that may follow it, or one byte that may stand nowhere.
-/

namespace WorkflowGraph.Text

/-- What the first byte of a character of several bytes tells: its share of the code point, how
many bytes follow, and the bounds of the next one. -/
structure Lead where
  share : Nat
  count : Nat
  low : Nat := 0x80
  high : Nat := 0xbf

/-- The bounds leave out what could be written shorter, surrogates, and what is beyond the last
code point. -/
def Lead.ofByte? (byte : UInt8) : Option Lead :=
  let n := byte.toNat
  if 0xc2 ≤ n && n ≤ 0xdf then some { share := n - 0xc0, count := 1 }
  else if n == 0xe0 then some { share := 0x0, count := 2, low := 0xa0 }
  else if n == 0xed then some { share := 0xd, count := 2, high := 0x9f }
  else if 0xe1 ≤ n && n ≤ 0xef then some { share := n - 0xe0, count := 2 }
  else if n == 0xf0 then some { share := 0, count := 3, low := 0x90 }
  else if n == 0xf4 then some { share := 4, count := 3, high := 0x8f }
  else if 0xf1 ≤ n && n ≤ 0xf3 then some { share := n - 0xf0, count := 3 }
  else none

/-- Reads the bytes after a first one: the code point, if it is whole, and how many bytes fit. -/
def readTail : Lead → List UInt8 → Option Nat × Nat
  | ⟨point, 0, _, _⟩, _ => (some point, 0)
  | ⟨_, _ + 1, _, _⟩, [] => (none, 0)
  | ⟨share, count + 1, low, high⟩, byte :: bytes =>
    if low ≤ byte.toNat && byte.toNat ≤ high then
      let (point, read) := readTail { share := share * 64 + byte.toNat % 64, count } bytes
      (point, read + 1)
    else (none, 0)

/-- The mark of what is no character. -/
def replacement : Char := '\uFFFD'

/-- The characters of bytes, without those of the first few bytes. -/
def lossyChars : Nat → List UInt8 → List Char
  | _, [] => []
  | skip + 1, _ :: bytes => lossyChars skip bytes
  | 0, byte :: bytes =>
    if byte.toNat < 0x80 then Char.ofNat byte.toNat :: lossyChars 0 bytes
    else
      match Lead.ofByte? byte with
      | none => replacement :: lossyChars 0 bytes
      | some lead =>
        let (point, read) := readTail lead bytes
        point.elim replacement Char.ofNat :: lossyChars read bytes

/-- The text of bytes, with a mark for every piece that is no character. -/
def lossy (bytes : List UInt8) : String := String.ofList (lossyChars 0 bytes)

end WorkflowGraph.Text

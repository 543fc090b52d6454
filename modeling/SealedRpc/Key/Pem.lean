import SealedRpc.Key.Base64
import SealedRpc.Text.Blank
import SealedRpc.Text.Utf8

/-!
# Key files in text form

Finding the labelled blocks in a file. Text around a block is ignored. Inside, lines are
joined and read in base 64; what stands before a blank line are headers, one on each line
with a colon in it.

A mark is searched for octet by octet. A mismatch in the middle of a mark starts the
search anew after the octet at which it showed.
-/

namespace SealedRpc.Pem

/-- A block: its label, its headers by name, and its octets. -/
structure Block where
  label : Text
  headers : List (Text × Text)
  content : Bytes
  deriving DecidableEq, Repr

/-- The octets of an ASCII string. -/
def ascii (s : String) : Bytes :=
  s.toList.map fun c => UInt8.ofNat c.toNat

/-- Searches for `mark`, of which `missing` is yet to come, and gives back what stands
before it, in reverse after `before`, and what follows. -/
def search (mark missing before : Bytes) : Bytes → Option (Bytes × Bytes)
  | [] => if missing.isEmpty then some ((before.drop mark.length).reverse, []) else none
  | b :: rest =>
      match missing with
      | [] => some ((before.drop mark.length).reverse, b :: rest)
      | m :: more =>
          if b = m then search mark more (b :: before) rest
          else search mark mark (b :: before) rest

/-- What stands before and after the first `mark` that the search finds. -/
def cutAt? (mark : String) (bytes : Bytes) : Option (Bytes × Bytes) :=
  search (ascii mark) (ascii mark) [] bytes

/-- Whether an octet is white space between a mark and what follows. -/
def isGap (b : UInt8) : Bool :=
  b = 0x20 || b = 0x09 || b = 0x0A || b = 0x0D

/-- The labels at the two ends of a block and what stands between, before they are read. -/
structure RawBlock where
  opening : Bytes
  closing : Bytes
  body : Bytes
  deriving DecidableEq

/-- The first block of a file and what follows it. -/
def rawBlock? (bytes : Bytes) : Option (RawBlock × Bytes) := do
  let (_, rest) ← cutAt? "-----BEGIN " bytes
  let (opening, rest) ← cutAt? "-----" rest
  let (body, rest) ← cutAt? "-----END " (rest.dropWhile isGap)
  let (closing, rest) ← cutAt? "-----" rest
  return (⟨opening, closing, body⟩, rest.dropWhile isGap)

/-- The blocks of a file in order, at most `count` of them. -/
def rawBlocks : Nat → Bytes → List RawBlock
  | 0, _ => []
  | count + 1, bytes =>
      match rawBlock? bytes with
      | some (block, rest) => block :: rawBlocks count rest
      | none => []

/-- The lines of a text, without what ends them. Nothing after the last end of a line is no
line. -/
def lines (t : Text) : List Text :=
  let parts := Text.splitOn '\n' t
  let parts := if parts.getLast? = some [] then parts.dropLast else parts
  parts.map fun line => if line.getLast? = some ('\r' : CodePoint) then line.dropLast else line

/-- The name and the value of a header line, without the white space around them. -/
def header? (line : Text) : Option (Text × Text) :=
  let trim := Text.trimWhile CodePoint.isWhiteSpace
  (Text.cut? ':' line).map fun p => (trim p.1, trim p.2)

/-- Headers and data of a body: a blank line parts them. -/
def cutBody (body : Bytes) : Bytes × Bytes :=
  match cutAt? "\n\n" body with
  | some parts => parts
  | none => (cutAt? "\r\n\r\n" body).getD ([], body)

/-- Whether an octet is white space in data, which is left out wherever it stands. -/
def isSpace (b : UInt8) : Bool :=
  isGap b || b = 0x0C

/-- Reads a block. Its labels agree and are not empty. -/
def readBlock? (raw : RawBlock) : Option Block := do
  let opening ← Utf8.decode? raw.opening
  let closing ← Utf8.decode? raw.closing
  let (headerPart, dataPart) := cutBody raw.body
  let headers ← (lines (← Utf8.decode? headerPart)).mapM header?
  let content ← Base64.decode? (dataPart.filter fun b => !isSpace b)
  if opening.isEmpty || opening ≠ closing then none else return ⟨opening, headers, content⟩

/-- The blocks of a file, if each of them can be read. -/
def blocks? (bytes : Bytes) : Option (List Block) :=
  (rawBlocks bytes.length bytes).mapM readBlock?

/-- The first block of a file. What follows it need not be readable. -/
def firstBlock? (bytes : Bytes) : Option Block := do
  readBlock? (← rawBlock? bytes).1

/-- The value of the last header with a given name. -/
def Block.header? (block : Block) (name : Text) : Option Text :=
  block.headers.reverse.lookup name

end SealedRpc.Pem

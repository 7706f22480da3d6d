import DiagramWeave.Block.Basic
import DiagramWeave.Deflate.Compress

/-!
# Tokens

A diagram server is sent a diagram as part of a URL: its UTF-8 bytes, compressed, and written in an
alphabet of sixty-four letters, three bytes in four letters.
-/
namespace DiagramWeave

/-- The letter of a value below sixty-four: digits, capitals, small letters, the dash and the underscore. -/
def tokenLetter (value : Nat) : Char :=
  if value < 10 then Char.ofNat (48 + value)
  else if value < 36 then Char.ofNat (65 + (value - 10))
  else if value < 62 then Char.ofNat (97 + (value - 36))
  else if value = 62 then '-'
  else '_'

/-- Four letters for three bytes. -/
def tokenGroup (a b c : UInt8) : List Char :=
  let number := a.toNat * 65536 + b.toNat * 256 + c.toNat
  [tokenLetter (number / 262144), tokenLetter (number / 4096 % 64), tokenLetter (number / 64 % 64),
    tokenLetter (number % 64)]

/-- Bytes in letters. The last group is filled up with zeros. -/
def encode64 : List UInt8 → List Char
  | [] => []
  | [a] => tokenGroup a 0 0
  | [a, b] => tokenGroup a b 0
  | a :: b :: c :: rest => tokenGroup a b c ++ encode64 rest

/-- The token of a diagram text. -/
def encode (text : String) : String :=
  String.ofList (encode64 (Deflate.compress text.toUTF8).toList)

/-- Where a diagram server shows a block. -/
def blockUrl (server : String) (block : Block) : String :=
  server ++ "/" ++ block.extension ++ "/" ++ encode block.payload

end DiagramWeave

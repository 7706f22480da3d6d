import DiagramWeave.Text.Digit
import DiagramWeave.Text.Pieces

/-!
# Locators

A locator says where an image is to be found: an absolute URL or a file path. URLs are written into a
document as they are; paths are percent-encoded, so that blanks and brackets in a title cannot end the
link that holds them.

A locator is a text of Unicode characters, so each character has its UTF-8 bytes. Halves of surrogate pairs
have none, and there is no locator that holds one.
-/
namespace DiagramWeave

/-- A character of a URL scheme behind its first letter. -/
def isSchemeCharacter (c : Char) : Bool :=
  isLatinLetter c || isDecimalDigit c || c == '+' || c == '.' || c == '-'

/-- An absolute URL: a scheme, a colon and two slashes. -/
def isUrl : List Char → Bool
  | [] => false
  | c :: rest =>
    isLatinLetter c && (Text.after? [':', '/', '/'] (rest.dropWhile isSchemeCharacter)).isSome

/-- Characters that percent-encoding leaves alone. -/
def isPlainInPath (c : Char) : Bool :=
  isLatinLetter c || isDecimalDigit c || c == '_' || c == '.' || c == '-' || c == '~' || c == '/'

/-- A byte as a percent sign and two digits. -/
def percentByte (byte : UInt8) : List Char :=
  ['%', hexDigit (byte.toNat / 16), hexDigit (byte.toNat % 16)]

/-- A character as it stands in a path reference: plain, or its UTF-8 bytes in percent form. -/
def percentCharacter (c : Char) : List Char :=
  if isPlainInPath c then [c] else (String.utf8EncodeChar c).flatMap percentByte

/-- The percent-encoded text. -/
def percentEncode (text : List Char) : List Char :=
  text.flatMap percentCharacter

/-- The locator as a document shows it: URLs unchanged, paths percent-encoded. -/
def escapeLocator (locator : String) : String :=
  if isUrl locator.toList then locator else String.ofList (percentEncode locator.toList)

/-- The locator of a rendered file under `base`. Under a URL the name is encoded here; under a path it
    stays as it is, for the rewriter to encode once. Trailing slashes of `base` do not count. -/
def fileLocator (base name : String) : String :=
  if base.isEmpty then name
  else
    let stem := Text.trimEnd (· == '/') base.toList
    let shown := if isUrl stem then percentEncode name.toList else name.toList
    String.ofList (stem ++ '/' :: shown)

end DiagramWeave

import DiagramWeave.Text.Digit

/-!
# Command lines

A command line is cut into words the way a shell does it: at spaces, tabs and line ends, with single
quotes that take everything literally, double quotes in which a backslash protects a quote or another
backslash, and a backslash outside quotes that protects any one character. Nothing else is special.
-/
namespace DiagramWeave.Shell

/-- Why a command line has no words. -/
inductive Fault where
  | openQuote
  | danglingBackslash
  deriving DecidableEq, Repr

/-- The text of a fault. -/
def Fault.message : Fault → String
  | openQuote => "No closing quotation"
  | danglingBackslash => "No escaped character"

/-- The characters between words. -/
def separates (c : Char) : Bool :=
  c == ' ' || c == '\t' || c == '\r' || c == '\n'

/-- Where the reading stands. -/
inductive Place where
  | outside
  | single
  | double
  /-- Behind a backslash, in double quotes or not. -/
  | escaped (quoted : Bool)
  deriving DecidableEq, Repr

/-- Reads the words of the rest of a line. `word` is the word begun, last character first; quotes begin a
    word even when nothing is in them. -/
def wordsFrom (place : Place) (word : Option (List Char)) : List Char → Except Fault (List (List Char))
  | [] =>
    match place with
    | .outside => .ok (word.toList.map List.reverse)
    | .single | .double => .error .openQuote
    | .escaped _ => .error .danglingBackslash
  | c :: rest =>
    let longer := some (c :: word.getD [])
    match place with
    | .outside =>
      if separates c then
        (wordsFrom .outside none rest).map fun words => word.toList.map List.reverse ++ words
      else if c = '\'' then wordsFrom .single (some (word.getD [])) rest
      else if c = '"' then wordsFrom .double (some (word.getD [])) rest
      else if c = '\\' then wordsFrom (.escaped false) word rest
      else wordsFrom .outside longer rest
    | .single => if c = '\'' then wordsFrom .outside word rest else wordsFrom .single longer rest
    | .double =>
      if c = '"' then wordsFrom .outside word rest
      else if c = '\\' then wordsFrom (.escaped true) word rest
      else wordsFrom .double longer rest
    | .escaped false => wordsFrom .outside longer rest
    | .escaped true =>
      if c = '"' || c = '\\' then wordsFrom .double longer rest
      else wordsFrom .double (some (c :: '\\' :: word.getD [])) rest

/-- The words of a command line. -/
def words (line : String) : Except Fault (List String) :=
  (wordsFrom .outside none line.toList).map fun words => words.map String.ofList

/-- A character that needs no quotes. -/
def isSafe (c : Char) : Bool :=
  isLatinLetter c || isDecimalDigit c || c == '_' || c == '@' || c == '%' || c == '+' || c == '=' ||
    c == ':' || c == ',' || c == '.' || c == '/' || c == '-'

/-- A single quote inside single quotes: out of them, in double quotes, and back. -/
def quotedQuote : List Char := ['\'', '"', '\'', '"', '\'']

/-- A word as a command line shows it. -/
def quote (word : String) : String :=
  if word.isEmpty then "''"
  else if word.toList.all isSafe then word
  else
    let inner := word.toList.flatMap fun c => if c = '\'' then quotedQuote else [c]
    String.ofList ('\'' :: inner ++ ['\''])

/-- The command line with these words. -/
def join (words : List String) : String :=
  " ".intercalate (words.map quote)

end DiagramWeave.Shell

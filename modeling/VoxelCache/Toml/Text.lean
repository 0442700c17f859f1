/-!
# Text of a TOML document

Readers take a list of characters and answer what they read together with the
characters behind it; there is no answer if the text is not as it has to be.

Control characters other than the tabulator occur nowhere, and a carriage return
only before a line feed.
-/

namespace VoxelCache

section Text

namespace Toml

/-- Reads the beginning of a text. -/
abbrev Reader (α : Type) := List Char → Option (α × List Char)

section Blanks

/-- Blanks within a line. -/
def isBlank (c : Char) : Bool :=
  c == ' ' || c == '\t'

def skipBlanks (s : List Char) : List Char :=
  s.dropWhile isBlank

/-- Characters that a comment may hold. -/
def isCommentChar (c : Char) : Bool :=
  c == '\t' || (' ' ≤ c && c ≤ '~') || 0x80 ≤ c.toNat

/-- The text behind a line break. -/
def lineBreak? : List Char → Option (List Char)
  | '\n' :: rest => some rest
  | '\r' :: '\n' :: rest => some rest
  | _ => none

/-- Skip a comment, if there is one. -/
def skipComment : List Char → List Char
  | '#' :: rest => rest.dropWhile isCommentChar
  | s => s

/-- The text behind the end of a line, which may bear a comment. -/
def endLine? (s : List Char) : Option (List Char) :=
  match skipComment (skipBlanks s) with
  | [] => some []
  | rest => lineBreak? rest

/-- Skip blanks, line breaks and comments. -/
def skipFiller (inComment : Bool) : List Char → List Char
  | [] => []
  | '\r' :: '\n' :: rest => skipFiller false rest
  | c :: rest =>
      if inComment && isCommentChar c then skipFiller true rest
      else if isBlank c || c == '\n' then skipFiller false rest
      else if c == '#' then skipFiller true rest
      else c :: rest

end Blanks

section Strings

/-- The value of a hexadecimal digit. -/
def hexValue? (c : Char) : Option Nat :=
  if '0' ≤ c && c ≤ '9' then some (c.toNat - '0'.toNat)
  else if 'a' ≤ c && c ≤ 'f' then some (c.toNat - 'a'.toNat + 10)
  else if 'A' ≤ c && c ≤ 'F' then some (c.toNat - 'A'.toNat + 10)
  else none

/-- The number that hexadecimal digits write. -/
def hexNumber? (digits : List Char) : Option Nat :=
  digits.foldlM (fun n c => (hexValue? c).map fun d => 16 * n + d) 0

/-- The character whose code a number of hexadecimal digits gives. -/
def codePoint (length : Nat) : Reader (List Char) := fun s =>
  if (s.take length).length = length then
    (hexNumber? (s.take length)).bind fun n =>
      if n.isValidChar then some ([Char.ofNat n], s.drop length) else none
  else
    none

/-- What follows a backslash. -/
def escape : Reader (List Char)
  | 'b' :: rest => some (['\x08'], rest)
  | 't' :: rest => some (['\t'], rest)
  | 'n' :: rest => some (['\n'], rest)
  | 'f' :: rest => some (['\x0c'], rest)
  | 'r' :: rest => some (['\r'], rest)
  | '"' :: rest => some (['"'], rest)
  | '\\' :: rest => some (['\\'], rest)
  | 'u' :: rest => codePoint 4 rest
  | 'U' :: rest => codePoint 8 rest
  | _ => none

/-- Skip the rest of a line after a backslash, and blanks and line breaks behind it. -/
def continuation? (s : List Char) : Option (List Char) :=
  (lineBreak? (skipBlanks s)).map fun rest => skipLines rest
where
  /-- Skip blanks and line breaks. -/
  skipLines : List Char → List Char
    | '\r' :: '\n' :: rest => skipLines rest
    | c :: rest => if isBlank c || c == '\n' then skipLines rest else c :: rest
    | [] => []

/-- One character that stands for itself, other than a delimiter. -/
def plainChar (delimiter : Char) : Reader (List Char)
  | c :: rest => if isCommentChar c && c != delimiter then some ([c], rest) else none
  | [] => none

/-- A line break within a string, as a line feed. -/
def innerBreak (s : List Char) : Option (List Char × List Char) :=
  (lineBreak? s).map fun rest => (['\n'], rest)

/-- One character of a string with escapes. -/
def basicChar : Reader (List Char)
  | '\\' :: rest => escape rest
  | s => plainChar '"' s

/-- One or two delimiters within a string of several lines. -/
def innerDelimiters (delimiter : Char) : Reader (List Char) := fun s =>
  let run := s.takeWhile (· == delimiter)
  if run.isEmpty then none else some (run, s.drop run.length)

/-- One piece of a string of several lines with escapes. -/
def basicPiece : Reader (List Char)
  | '\\' :: rest =>
      match continuation? rest with
      | some rest => some ([], rest)
      | none => escape rest
  | s => (innerBreak s <|> innerDelimiters '"' s) <|> plainChar '"' s

/-- One piece of a string of several lines without escapes. -/
def literalPiece : Reader (List Char) := fun s =>
  (innerBreak s <|> innerDelimiters '\'' s) <|> plainChar '\'' s

/-- The end of a string on one line. -/
def closeLine (delimiter : Char) : Reader (List Char)
  | c :: rest => if c == delimiter then some ([], rest) else none
  | [] => none

/-- The end of a string of several lines; up to two delimiters before it belong to the string. -/
def closeLines (delimiter : Char) : Reader (List Char) := fun s =>
  let length := (s.takeWhile (· == delimiter)).length
  if length < 3 then
    none
  else
    let extra := min (length - 3) 2
    some (List.replicate extra delimiter, s.drop (extra + 3))

/-- Read pieces until the end; the fuel bounds the number of pieces. -/
def piecesUntil (close piece : Reader (List Char)) : Nat → Reader (List Char)
  | 0, _ => none
  | fuel + 1, s =>
      match close s with
      | some closed => some closed
      | none =>
          (piece s).bind fun (chars, rest) =>
            (piecesUntil close piece fuel rest).map fun (more, rest) => (chars ++ more, rest)

/-- Read the inside of a string up to its end. -/
def stringBody (close piece : Reader (List Char)) : Reader String := fun s =>
  (piecesUntil close piece (s.length + 1) s).map fun (chars, rest) =>
    (String.ofList chars, rest)

/-- Drop a line break directly behind the opening delimiter. -/
def dropBreak (s : List Char) : List Char :=
  (lineBreak? s).getD s

/-- A string on one line. -/
def lineString : Reader String
  | '"' :: rest => stringBody (closeLine '"') basicChar rest
  | '\'' :: rest => stringBody (closeLine '\'') (plainChar '\'') rest
  | _ => none

/-- A string of any form. -/
def anyString : Reader String
  | '"' :: '"' :: '"' :: rest => stringBody (closeLines '"') basicPiece (dropBreak rest)
  | '\'' :: '\'' :: '\'' :: rest => stringBody (closeLines '\'') literalPiece (dropBreak rest)
  | s => lineString s

end Strings

section Keys

/-- Characters of a key without quotes. -/
def isBareKeyChar (c : Char) : Bool :=
  c.isAlphanum || c == '_' || c == '-'

/-- One part of a dotted key. -/
def simpleKey (s : List Char) : Option (String × List Char) :=
  match s with
  | '"' :: _ => lineString s
  | '\'' :: _ => lineString s
  | _ =>
      let bare := s.takeWhile isBareKeyChar
      if bare.isEmpty then none else some (String.ofList bare, s.drop bare.length)

/-- Least number of parts that a dotted key must not have. -/
def keyLimit : Nat := 80

/-- The parts of a dotted key; the fuel bounds their number. -/
def keyParts : Nat → Reader (List String)
  | 0, _ => none
  | fuel + 1, s =>
      (simpleKey (skipBlanks s)).bind fun (part, rest) =>
        match skipBlanks rest with
        | '.' :: rest => (keyParts fuel rest).map fun (parts, rest) => (part :: parts, rest)
        | rest => some ([part], rest)

/-- A dotted key with the blanks around it. -/
def key : Reader (List String) :=
  keyParts (keyLimit - 1)

end Keys

end Toml

end Text

end VoxelCache

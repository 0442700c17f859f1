import VoxelCache.Toml.Item
import VoxelCache.Toml.Number

/-!
# TOML documents

A document consists of lines: empty ones, headers of tables, headers of elements
of arrays of tables, and keys with values.  Values nest in arrays and in tables
between braces, to a fixed depth.
-/

namespace VoxelCache

section Document

namespace Toml

section Values

/-- How deep values nest. -/
def nestingLimit : Nat := 79

/-- A value that does not contain others. -/
def scalar : Reader Item
  | 't' :: 'r' :: 'u' :: 'e' :: rest => some (.boolean true, rest)
  | 'f' :: 'a' :: 'l' :: 's' :: 'e' :: rest => some (.boolean false, rest)
  | s =>
      match anyString s with
      | some (value, rest) => some (.text value, rest)
      | none =>
          match dateTime? s with
          | some rest => some (.dateTime, rest)
          | none =>
              (number s).map fun (value, rest) =>
                match value with
                | .integer n => (.integer n, rest)
                | .float x => (.float x, rest)

/-- Elements up to the closing bracket; the fuel bounds their number. -/
def elements (value : Reader Item) : Nat → Reader (List Item)
  | 0, _ => none
  | fuel + 1, s =>
      match skipFiller false s with
      | ']' :: rest => some ([], rest)
      | s =>
          (value s).bind fun (item, rest) =>
            match skipFiller false rest with
            | ',' :: rest =>
                (elements value fuel rest).map fun (items, rest) => (item :: items, rest)
            | ']' :: rest => some ([item], rest)
            | _ => none

/-- A key with its value, between blanks. -/
def pair (value : Reader Item) : Reader (List String × Item) := fun s =>
  (key s).bind fun (path, rest) =>
    match rest with
    | '=' :: rest =>
        (value (skipBlanks rest)).map fun (item, rest) => ((path, item), skipBlanks rest)
    | _ => none

/-- Pairs up to the closing brace, at least one; the fuel bounds their number. -/
def pairs (value : Reader Item) : Nat → Reader (List (List String × Item))
  | 0, _ => none
  | fuel + 1, s =>
      (pair value s).bind fun (first, rest) =>
        match rest with
        | ',' :: rest =>
            (pairs value fuel rest).map fun (more, rest) => (first :: more, rest)
        | '}' :: rest => some ([first], rest)
        | _ => none

/-- The entries that pairs between braces make up. -/
def inlineEntries (pairs : List (List String × Item)) : Option Entries :=
  pairs.foldlM (fun entries (path, item) =>
    (splitLast? path).bind fun (parents, key) => addInline entries key item parents) []

/-- A table behind its opening brace. -/
def braces (value : Reader Item) : Reader Item := fun s =>
  match skipBlanks s with
  | '}' :: rest => some (.inline false [], rest)
  | s =>
      (pairs value (s.length + 1) s).bind fun (pairs, rest) =>
        (inlineEntries pairs).map fun entries => (.inline false entries, rest)

/-- A value that nests at most as deep as given. -/
def value : Nat → Reader Item
  | depth + 1, '[' :: rest =>
      (elements (value depth) (rest.length + 1) rest).map fun (items, rest) =>
        (.array items, rest)
  | depth + 1, '{' :: rest => braces (value depth) rest
  | _, s => scalar s

end Values

section Lines

/-- A line with a header of a table, behind its opening bracket. -/
def tableLine (d : Draft) (s : List Char) : Option (Draft × List Char) :=
  (key s).bind fun (path, rest) =>
    match rest with
    | ']' :: rest =>
        (endLine? rest).bind fun rest => (d.openTable path).map fun d => (d, rest)
    | _ => none

/-- A line with a header of an element, behind its opening brackets. -/
def elementLine (d : Draft) (s : List Char) : Option (Draft × List Char) :=
  (key s).bind fun (path, rest) =>
    match rest with
    | ']' :: ']' :: rest =>
        (endLine? rest).bind fun rest => (d.openElement path).map fun d => (d, rest)
    | _ => none

/-- A line with a key and a value. -/
def pairLine (d : Draft) (s : List Char) : Option (Draft × List Char) :=
  (pair (value nestingLimit) s).bind fun ((path, item), rest) =>
    (endLine? rest).bind fun rest => (d.add path item).map fun d => (d, rest)

/-- The next line of a document. -/
def line (d : Draft) (s : List Char) : Option (Draft × List Char) :=
  match s with
  | '[' :: '[' :: rest => elementLine d rest
  | '[' :: rest => tableLine d rest
  | _ =>
      match endLine? s with
      | some rest => some (d, rest)
      | none => pairLine d s

/-- All lines; the fuel bounds their number. -/
def lines : Nat → Draft → List Char → Option Draft
  | 0, _, _ => none
  | fuel + 1, d, s =>
      match skipBlanks s with
      | [] => some d
      | s => (line d s).bind fun (d, rest) => lines fuel d rest

/-- The mark that may stand before a document. -/
def byteOrderMark : Char := '\ufeff'

/-- Read a document. -/
def parse? (text : String) : Option Entries :=
  let s := text.toList
  let s := if s.head? = some byteOrderMark then s.drop 1 else s
  (lines (s.length + 1) .empty s).bind (·.close)

end Lines

end Toml

end Document

end VoxelCache

/-!
# Items of a TOML document

A document is a table of items by key.  Tables come about in three ways: by a
header of their own, as a parent that some header names on its way, and by a
dotted key.  The way decides what may be added later: a table with a header of
its own is closed to dotted keys, and only a parent may still get its own header.
-/

namespace VoxelCache

section Item

namespace Toml

/-- How a table came about. -/
inductive Origin where
  | header
  | parent
  | dotted
deriving DecidableEq

/-- An item of a document.  Of dates and times only their presence is kept. -/
inductive Item where
  | text (value : String)
  | integer (value : Int)
  | float (value : Float)
  | boolean (value : Bool)
  | dateTime
  | array (items : List Item)
  /-- A table in braces, or one that a dotted key within braces opened. -/
  | inline (isDotted : Bool) (entries : List (String × Item))
  | table (origin : Origin) (entries : List (String × Item))
  /-- An array of tables, each with a header of its own. -/
  | tables (elements : List (List (String × Item)))

/-- Items by key, in order of appearance. -/
abbrev Entries := List (String × Item)

namespace Entries

def find? (entries : Entries) (key : String) : Option Item :=
  entries.lookup key

def erase (entries : Entries) (key : String) : Entries :=
  entries.filter fun entry => entry.1 != key

/-- Replace the item of a key that is present. -/
def replace (entries : Entries) (key : String) (item : Item) : Entries :=
  entries.map fun entry => if entry.1 == key then (key, item) else entry

/-- Add an item under a new key. -/
def add? (entries : Entries) (key : String) (item : Item) : Option Entries :=
  match entries.find? key with
  | some _ => none
  | none => some (entries ++ [(key, item)])

end Entries

section Descent

variable {α : Type}

/-- The last element of a list and the elements before it. -/
def splitLast? : List α → Option (List α × α)
  | [] => none
  | [a] => some ([], a)
  | a :: rest => (splitLast? rest).map fun (before, last) => (a :: before, last)

/--
Change the table at the end of a path of keys.  Missing tables on the way are
created; an array of tables stands for its last element.  By dotted keys, no
table with a header of its own may be entered.
-/
def descend
    (byDots : Bool) (change : Origin → Entries → Option (α × Entries))
    (origin : Origin) (entries : Entries) :
    List String → Option (α × Entries)
  | [] => change origin entries
  | key :: path =>
      match entries.find? key with
      | none =>
          let created : Origin := if byDots then .dotted else .parent
          (descend byDots change created [] path).map fun (a, inner) =>
            (a, entries ++ [(key, .table created inner)])
      | some (.table inside inner) =>
          if byDots && inside == .header then
            none
          else
            (descend byDots change inside inner path).map fun (a, inner) =>
              (a, entries.replace key (.table inside inner))
      | some (.tables elements) =>
          (splitLast? elements).bind fun (before, last) =>
            (descend byDots change .header last path).map fun (a, last) =>
              (a, entries.replace key (.tables (before ++ [last])))
      | some _ => none

/-- Add an item at a dotted key within a table. -/
def addDotted (entries : Entries) (path : List String) (key : String) (item : Item) :
    Option Entries :=
  (descend true (fun origin inner =>
      if (origin == .dotted) == path.isEmpty then none
      else (inner.add? key item).map fun inner => ((), inner))
    .header entries path).map (·.2)

/-- Add an item at a dotted key within braces. -/
def addInline (entries : Entries) (key : String) (item : Item) :
    List String → Option Entries
  | [] => entries.add? key item
  | first :: path =>
      match entries.find? first with
      | none =>
          (addInline [] key item path).map fun inner =>
            entries ++ [(first, .inline true inner)]
      | some (.inline true inner) =>
          (addInline inner key item path).map fun inner =>
            entries.replace first (.inline true inner)
      | some _ => none

end Descent

section Draft

/-- A document while it is read: the table under the last header is still open. -/
structure Draft where
  root : Entries
  current : Entries
  /-- The keys of the last header; there are none before the first header. -/
  path : List String
  /-- Whether the open table is an element of an array of tables. -/
  isElement : Bool

namespace Draft

def empty : Draft :=
  ⟨[], [], [], false⟩

/-- Put the open table into its place. -/
def close (d : Draft) : Option Entries :=
  match splitLast? d.path with
  | none => some d.current
  | some (parents, key) =>
      (descend false (fun _ entries =>
          if d.isElement then
            match entries.find? key with
            | some (.tables elements) =>
                some ((), entries.replace key (.tables (elements ++ [d.current])))
            | _ => none
          else
            (entries.add? key (.table .header d.current)).map fun entries => ((), entries))
        .header d.root parents).map (·.2)

/-- Add an item to the open table. -/
def add (d : Draft) (path : List String) (item : Item) : Option Draft :=
  (splitLast? path).bind fun (parents, key) =>
    (addDotted d.current parents key item).map fun current =>
      { d with current := current }

/-- Open the table of a header; only a parent may exist already. -/
def openTable (d : Draft) (path : List String) : Option Draft :=
  d.close.bind fun root =>
    (splitLast? path).bind fun (parents, key) =>
      (descend false (fun _ entries =>
          match entries.find? key with
          | none => some ([], entries)
          | some (.table .parent inner) => some (inner, entries.erase key)
          | some _ => none)
        .header root parents).map fun (current, root) => ⟨root, current, path, false⟩

/-- Open a new element of an array of tables. -/
def openElement (d : Draft) (path : List String) : Option Draft :=
  d.close.bind fun root =>
    (splitLast? path).bind fun (parents, key) =>
      (descend false (fun _ entries =>
          match entries.find? key with
          | none => some ((), entries ++ [(key, .tables [])])
          | some (.tables _) => some ((), entries)
          | some _ => none)
        .header root parents).map fun (_, root) => ⟨root, [], path, true⟩

end Draft

end Draft

end Toml

end Item

end VoxelCache

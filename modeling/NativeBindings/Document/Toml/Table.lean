import NativeBindings.Document.Value

/-!
# Tables of TOML

A document assigns values to dotted keys, under headers that open a table or a further row of an
array of tables. No key is assigned twice, no table is opened twice, and each way of making a
table limits what may be added to it later.
-/

namespace NativeBindings.Document.Toml

/-- How a table came to be. -/
inductive Origin
  /-- Opened by its own header, or the top of a document or of an inline table. -/
  | opened
  /-- Named on the way to another table in a header. -/
  | implied
  /-- Named on the way to a key in an assignment. -/
  | dotted
  deriving DecidableEq, Repr

/-- What stands under a key: a finished value, a table, or the rows of an array of tables. -/
inductive Node
  | value (content : Value)
  | table (origin : Origin) (entries : List (String × Node))
  | rows (tables : List (List (String × Node)))

/-- The entries of a table that is still being built. -/
abbrev Entries := List (String × Node)

/-- What stands under a key of a table. -/
def Entries.find? (entries : Entries) (key : String) : Option Node :=
  (List.find? (·.1 == key) entries).map (·.2)

/-- Put a node under a key, in the place of what stood there. -/
def Entries.put (entries : Entries) (key : String) (node : Node) : Entries :=
  List.filter (·.1 != key) entries ++ [(key, node)]

/-- Change the table that a path leads to. Tables that are missing on the way get the given
origin. The path of an assignment must not enter a table that a header has opened; no path enters
a finished value, and in an array of tables it enters the last row. -/
def descend (origin : Origin) (change : Origin → Entries → Option Entries) :
    Origin → List String → Entries → Option Entries
  | current, [], entries => change current entries
  | _, key :: path, entries =>
    match entries.find? key with
    | none => do
      let inner ← descend origin change origin path []
      return entries.put key (.table origin inner)
    | some (.table found inner) =>
      if origin = .dotted ∧ found = .opened then none
      else do
        let inner ← descend origin change found path inner
        return entries.put key (.table found inner)
    | some (.rows tables) =>
      match tables.getLast? with
      | none => none
      | some row => do
        let row ← descend origin change .opened path row
        return entries.put key (.rows (tables.dropLast ++ [row]))
    | some (.value _) => none

/-- A dotted key with its value: the keys before the last, the last one, and the value. -/
structure Assignment where
  path : List String
  key : String
  content : Value

/-- Carry an assignment out. A dotted key adds only to a table that dotted keys have made. -/
def assign (entries : Entries) (assignment : Assignment) : Option Entries :=
  descend .dotted (fun origin inner =>
      if assignment.path ≠ [] ∧ origin ≠ .dotted then none
      else if (inner.find? assignment.key).isSome then none
      else some (inner.put assignment.key (.value assignment.content)))
    .opened assignment.path entries

/-- Carry assignments out in order. -/
def assignAll (entries : Entries) (assignments : List Assignment) : Option Entries :=
  assignments.foldlM assign entries

/-- A header: the path of a table, or of an array of tables that gets a further row. -/
structure Header where
  path : List String
  key : String
  isRow : Bool

/-- The entries that a header starts with. A table that other headers have only named may be
opened once. -/
def Header.start (header : Header) (found : Option Node) : Option Entries :=
  if header.isRow then some []
  else match found with
    | none => some []
    | some (.table .implied entries) => some entries
    | _ => none

/-- What stands under the key of a header after its table is finished. -/
def Header.finish (header : Header) (found : Option Node) (entries : Entries) : Option Node :=
  if header.isRow then
    match found with
    | none => some (.rows [entries])
    | some (.rows tables) => some (.rows (tables ++ [entries]))
    | _ => none
  else some (.table .opened entries)

/-- The assignments under a header. -/
structure Section where
  header : Header
  assignments : List Assignment

/-- Add a section to the document. -/
def addSection (root : Entries) (part : Section) : Option Entries :=
  descend .implied (fun _ parent => do
      let found := parent.find? part.header.key
      let entries ← assignAll (← part.header.start found) part.assignments
      return parent.put part.header.key (← part.header.finish found entries))
    .opened part.header.path root

mutual

/-- The value that a node stands for. -/
def Node.toValue : Node → Value
  | .value content => content
  | .table _ entries => .record (fieldsOf entries)
  | .rows tables => .list (rowsOf tables)

/-- The fields that entries stand for. -/
def fieldsOf : List (String × Node) → List (String × Value)
  | [] => []
  | (key, node) :: rest => (key, node.toValue) :: fieldsOf rest

/-- The records that the rows of an array of tables stand for. -/
def rowsOf : List (List (String × Node)) → List Value
  | [] => []
  | entries :: rest => .record (fieldsOf entries) :: rowsOf rest

end

/-- The value of an inline table, which nothing can be added to later. -/
def inlineTable (assignments : List Assignment) : Option Value :=
  (assignAll [] assignments).map fun entries => .record (fieldsOf entries)

end NativeBindings.Document.Toml

import CompositeBuild.Toml.Key
import CompositeBuild.Toml.Moment

/-!
# TOML documents

A document is read line by line into a tree of sections.  A section remembers how it came about,
because that decides whether it may be opened again: a table with a header of its own may not, one
that a longer header or a dotted key passed through may, each in its own way.

`parse?` refuses every text that is not TOML 1.0, without saying why.
-/

namespace CompositeBuild.Toml

/-- How a table of a document came about. -/
inductive Origin where
  /-- It has a header of its own, or is the root of the document. -/
  | declared
  /-- A header of a table inside it passed through it. -/
  | implied
  /-- A dotted key passed through it. -/
  | dotted
  deriving DecidableEq, Repr

/-- What a document holds under a key while it is being read. -/
inductive Node where
  /-- A value that is complete: a scalar, an array in brackets or an inline table. -/
  | value (value : Value)
  | table (origin : Origin) (entries : List (String × Node))
  /-- The tables of an array that is built header by header. -/
  | tables (items : List (List (String × Node)))
  deriving Repr, Inhabited

/-- The entries of a table, in the order in which the document gives them. -/
abbrev Entries := List (String × Node)

/-- A table of a document while it is being read. -/
structure Section where
  origin : Origin
  entries : Entries

/-- What stands under a key. -/
def Entries.find? (entries : Entries) (key : String) : Option Node :=
  (List.find? (fun entry => entry.1 = key) entries).map (·.2)

/-- The same entries with something else under a key that has an entry. -/
def Entries.replace (entries : Entries) (key : String) (node : Node) : Entries :=
  List.map (fun entry => if entry.1 = key then (key, node) else entry) entries

/-- Change the table at the end of a path.  Missing tables on the way are made with the given
origin.  A path leads through an array of tables to its last table, and nowhere through a value.
A dotted key does not lead into a table with a header of its own. -/
def Section.changeAt (made : Origin) (change : Section → Option Section) :
    List String → Section → Option Section
  | [], table => change table
  | key :: path, table =>
    match table.entries.find? key with
    | none => do
      let inner ← changeAt made change path { origin := made, entries := [] }
      return { table with
        entries := table.entries ++ [(key, .table inner.origin inner.entries)] }
    | some (.value _) => none
    | some (.tables items) => do
      let inner ← changeAt made change path
        { origin := .declared, entries := items.getLast?.getD [] }
      return { table with
        entries := table.entries.replace key (.tables (items.dropLast ++ [inner.entries])) }
    | some (.table origin entries) =>
      if made = .dotted ∧ origin = .declared then none
      else do
        let inner ← changeAt made change path { origin, entries }
        return { table with
          entries := table.entries.replace key (.table inner.origin inner.entries) }

/-- Put a value under a dotted key.  The keys in front of the last one must lead to a table made by
dotted keys, and the last one must be new there. -/
def Section.assign (table : Section) (path : List String) (key : String) (value : Value) :
    Option Section :=
  table.changeAt .dotted (fun target =>
    if target.origin = .dotted ↔ path = [] then none
    else if (target.entries.find? key).isSome then none
    else some { target with entries := target.entries ++ [(key, .value value)] }) path

/-! ### Values -/

/-- What an inline table holds under a key while it is being read: a complete value, or a table made
by dotted keys. -/
def Section.toValue (entries : Entries) : Value :=
  .table (go entries)
where
  /-- The values of the entries. -/
  go : Entries → List (String × Value)
    | [] => []
    | (key, .value value) :: rest => (key, value) :: go rest
    | (key, .table _ entries) :: rest => (key, .table (go entries)) :: go rest
    | (key, .tables items) :: rest => (key, .array (goAll items)) :: go rest
  /-- The tables of an array. -/
  goAll : List Entries → List Value
    | [] => []
    | entries :: rest => .table (go entries) :: goAll rest

/-- The items of an array, from behind its opening bracket or a comma. -/
def items? (item? : List Char → Option (Value × List Char)) :
    Nat → List Char → Option (List Value × List Char)
  | 0, _ => none
  | fuel + 1, text =>
    match skipBetween text with
    | ']' :: rest => some ([], rest)
    | text => do
      let (item, rest) ← item? text
      match skipBetween rest with
      | ',' :: rest =>
        let (items, rest) ← items? item? fuel rest
        return (item :: items, rest)
      | ']' :: rest => return ([item], rest)
      | _ => none

/-- The entries of an inline table, from behind its opening brace or a comma. -/
def inlineEntries? (item? : List Char → Option (Value × List Char)) :
    Nat → Section → List Char → Option (Entries × List Char)
  | 0, _, _ => none
  | fuel + 1, table, text => do
    let ((path, key), rest) ← key? text
    let rest ← behind? '=' rest
    let (value, rest) ← item? (skipBlanks rest)
    let table ← table.assign path key value
    match skipBlanks rest with
    | ',' :: rest => inlineEntries? item? fuel table rest
    | '\x7d' :: rest => return (table.entries, rest)
    | _ => none

/-- A value, with arrays and inline tables nested at most as deep as the first argument says. -/
def value? : Nat → List Char → Option (Value × List Char)
  | depth + 1, '[' :: rest => do
    let (items, rest) ← items? (value? depth) (rest.length + 1) rest
    return (.array items, rest)
  | depth + 1, '\x7b' :: rest =>
    match skipBlanks rest with
    | '\x7d' :: rest => some (.table [], rest)
    | _ => do
      let (entries, rest) ← inlineEntries? (value? depth) (rest.length + 1)
        { origin := .declared, entries := [] } rest
      return (Section.toValue entries, rest)
  | _, 't' :: 'r' :: 'u' :: 'e' :: rest => some (.boolean true, rest)
  | _, 'f' :: 'a' :: 'l' :: 's' :: 'e' :: rest => some (.boolean false, rest)
  | _, text@('"' :: _) | _, text@('\'' :: _) => do
    let (text, rest) ← string? text
    return (.string text, rest)
  | _, text =>
    if startsDate text || startsTime text then do
      let rest ← moment? text
      return (.moment, rest)
    else number? text

/-! ### Lines -/

/-- Where the lines without a header of their own go. -/
inductive Target where
  /-- The root of the document. -/
  | root
  /-- A table with the given path. -/
  | table (path : List String) (key : String)
  /-- A new table at the end of an array with the given path. -/
  | item (path : List String) (key : String)

/-- A document while it is being read: all finished tables, and the one that is open. -/
structure Draft where
  root : Section
  target : Target := .root
  current : Section

namespace Draft

/-- The document before its first line. -/
def blank : Draft where
  root := { origin := .declared, entries := [] }
  current := { origin := .declared, entries := [] }

/-- Put the open table into its place in the document. -/
def finish (draft : Draft) : Option Section :=
  match draft.target with
  | .root => some draft.current
  | .table path key =>
    draft.root.changeAt .implied (fun parent => some { parent with
      entries := parent.entries ++ [(key, .table draft.current.origin draft.current.entries)] })
      path
  | .item path key =>
    draft.root.changeAt .implied (fun parent =>
      match parent.entries.find? key with
      | some (.tables items) => some { parent with
          entries := parent.entries.replace key (.tables (items ++ [draft.current.entries])) }
      | _ => none) path

/-- Open the table of a header.  Its key must be new, or belong to a table that only a longer header
has passed through so far, which is then continued. -/
def openTable (draft : Draft) (path : List String) (key : String) : Option Draft := do
  let root ← draft.finish
  let parent ← root.changeAt .implied some path
  let inner ← innermost path parent
  match inner.entries.find? key with
  | none =>
    return { root := parent, target := .table path key
             current := { origin := .declared, entries := [] } }
  | some (.table .implied entries) =>
    let root ← parent.changeAt .implied (fun inner => some { inner with
      entries := List.filter (fun entry => entry.1 ≠ key) inner.entries }) path
    return { root, target := .table path key, current := { origin := .declared, entries } }
  | some _ => none
where
  /-- The table at the end of a path that exists. -/
  innermost : List String → Section → Option Section
    | [], table => some table
    | key :: path, table =>
      match table.entries.find? key with
      | some (.table origin entries) => innermost path { origin, entries }
      | some (.tables items) =>
        innermost path { origin := .declared, entries := items.getLast?.getD [] }
      | _ => none

/-- Open a new table of an array.  Its key must be new or belong to such an array already. -/
def openItem (draft : Draft) (path : List String) (key : String) : Option Draft := do
  let root ← draft.finish
  let root ← root.changeAt .implied (fun parent =>
    match parent.entries.find? key with
    | none => some { parent with entries := parent.entries ++ [(key, .tables [])] }
    | some (.tables _) => some parent
    | some _ => none) path
  return { root, target := .item path key, current := { origin := .declared, entries := [] } }

/-- Read one line that is not blank. -/
def line? (draft : Draft) (text : List Char) : Option (Draft × List Char) :=
  match text with
  | '[' :: '[' :: rest => do
    let ((path, key), rest) ← key? rest
    let rest ← restOfLine? (← behind? ']' (← behind? ']' rest))
    return (← draft.openItem path key, rest)
  | '[' :: rest => do
    let ((path, key), rest) ← key? rest
    let rest ← restOfLine? (← behind? ']' rest)
    return (← draft.openTable path key, rest)
  | text => do
    let ((path, key), rest) ← key? text
    let (value, rest) ← value? nestingLimit (skipBlanks (← behind? '=' rest))
    let rest ← restOfLine? rest
    let current ← draft.current.assign path key value
    return ({ draft with current }, rest)

/-- Read all lines. -/
def lines? : Nat → Draft → List Char → Option Draft
  | 0, _, _ => none
  | fuel + 1, draft, text =>
    match skipBlanks text with
    | [] => some draft
    | '#' :: _ => do lines? fuel draft (← restOfLine? text)
    | text =>
      match lineEnd? text with
      | some rest => lines? fuel draft rest
      | none => do
        let (draft, rest) ← draft.line? text
        lines? fuel draft rest

end Draft

/-- Read a document into its table.  A byte order mark in front is allowed. -/
def parse? (text : String) : Option Value := do
  let text := match text.toList with
    | '\uFEFF' :: rest => rest
    | text => text
  let draft ← Draft.blank.lines? (text.length + 1) text
  let root ← draft.finish
  return Section.toValue root.entries

end CompositeBuild.Toml

import CrashTriage.Toml.Scalar

/-!
# TOML documents

A document is a sequence of key-value pairs and table headers. Tables can be built up in several
places, but each can be defined only once: by a header, by dotted keys, or as a value. A table that
begins with a certain key is not a table but a date or time.
-/

namespace CrashTriage.Toml

open Settings (Value)

/-! ### Tables under construction -/

/-- How a table came to be. -/
inductive Origin where
  /-- It was passed through by a header of one of its tables. -/
  | implied
  /-- It has a header of its own, or is the whole document. -/
  | header
  /-- It was passed through by a dotted key. -/
  | dotted
  /-- It was written between braces, with all its entries. -/
  | braced
deriving DecidableEq

/-- Whether a key with the given parts before its last may add to a table of this origin: a key of
one part adds to any table but a dotted one, and a key of several parts to dotted ones only. -/
def Origin.admits (origin : Origin) (path : List String) : Bool :=
  if path.isEmpty then origin ≠ .dotted else origin = .dotted

/-- Whether a path may pass through a table of this origin: nothing enters a table between braces,
and a dotted key enters no table that has a header. -/
def Origin.opensTo (origin : Origin) (dotted : Bool) : Bool :=
  origin ≠ .braced && !(dotted && origin = .header)

/-- A part of a document: a value without parts, an array, a table, or an array of tables under
construction, the newest first. -/
inductive Node where
  | leaf (value : Value)
  | array (items : List Node)
  | branch (origin : Origin) (entries : List (String × Node))
  | series (tables : List (List (String × Node)))

/-- The named parts of a table under construction. -/
abbrev Entries := List (String × Node)

/-! ### Finished values -/

/-- The key at the start of a table that marks it as a date or time, given by the string under
the key. -/
def momentKey : String := "$__toml_private_datetime"

/-- The date or time that a string denotes. -/
def Node.moment? : Node → Option Value
  | .leaf (.text s) => Toml.moment? s.toList
  | _ => none

mutual

/-- The finished value of a part of a document, if it has one. -/
def Node.toValue? : Node → Option Value
  | .leaf value => some value
  | .array items => do pure (.list (← finishItems items))
  | .branch _ entries => finishTable entries
  | .series tables => do pure (.list (← finishTables tables).reverse)

/-- The finished values of the items of an array. -/
def finishItems : List Node → Option (List Value)
  | [] => some []
  | node :: rest => do pure ((← node.toValue?) :: (← finishItems rest))

/-- The finished values of the parts of a table. -/
def finishEntries : List (String × Node) → Option (List (String × Value))
  | [] => some []
  | (key, node) :: rest => do pure ((key, ← node.toValue?) :: (← finishEntries rest))

/-- The finished value of a table: the table of its finished parts, or the date or time that it
stands for, whatever parts there are after the first. -/
def finishTable : List (String × Node) → Option Value
  | [] => some (.table [])
  | (key, node) :: rest =>
    if key = momentKey then node.moment?
    else do pure (.table ((key, ← node.toValue?) :: (← finishEntries rest)))

/-- The finished values of the tables of an array. -/
def finishTables : List (List (String × Node)) → Option (List Value)
  | [] => some []
  | entries :: rest => do pure ((← finishTable entries) :: (← finishTables rest))

end

namespace Entries

/-- The entries with another part in the place of the one with a key, or one more part. -/
def put (key : String) (node : Node) : Entries → Entries
  | [] => [(key, node)]
  | (k, n) :: rest => if k = key then (k, node) :: rest else (k, n) :: put key node rest

/-- The entries without the one with a key. -/
def remove (key : String) (entries : Entries) : Entries := entries.filter (·.1 ≠ key)

/-- Changes the table at the end of a path. Tables on the way that are absent are created, and
those that are there must be open to the path. -/
def change (dotted : Bool) (path : List String) (origin : Origin) (entries : Entries)
    (act : Origin → Entries → Option Entries) : Option Entries :=
  match path with
  | [] => act origin entries
  | key :: path =>
    match entries.lookup key with
    | none => do
      let created := if dotted then Origin.dotted else .implied
      let inner ← change dotted path created [] act
      pure (entries.put key (.branch created inner))
    | some (.branch found inner) => do
      if !found.opensTo dotted then failure
      let inner ← change dotted path found inner act
      pure (entries.put key (.branch found inner))
    | some (.series (newest :: older)) => do
      let newest ← change dotted path .header newest act
      pure (entries.put key (.series (newest :: older)))
    | some (.series []) | some (.array _) | some (.leaf _) => none

/-- Gives a key of a table a value: the path from the table is dotted, and the key must be new in
a table that it may add to. -/
def define (path : List String) (key : String) (value : Node) (origin : Origin)
    (entries : Entries) : Option Entries :=
  entries.change true path origin fun reached inner => do
    if !reached.admits path then failure
    if (inner.lookup key).isSome then failure
    pure (inner.put key value)

/-- Opens the table of a header, which must be new or only passed through before, and which comes
last from now on. -/
def openTable (path : List String) (key : String) (entries : Entries) : Option Entries :=
  entries.change false path .header fun _ inner =>
    match inner.lookup key with
    | none => some (inner.put key (.branch .header []))
    | some (.branch .implied own) => some ((inner.remove key).put key (.branch .header own))
    | some _ => none

/-- Adds a table to the array of a header. -/
def addTable (path : List String) (key : String) (entries : Entries) : Option Entries :=
  entries.change false path .header fun _ inner =>
    match inner.lookup key with
    | none => some (inner.put key (.series [[]]))
    | some (.series tables) => some (inner.put key (.series ([] :: tables)))
    | some _ => none

end Entries

/-! ### Keys and values -/

/-- How many parts a key may have, and how many brackets and braces may be open around a value. -/
def depthLimit : Nat := 79

namespace Scanner

/-- Whether a character may stand in a key without quotes. -/
def isKeyChar (c : Char) : Bool := c.isAlphanum || c = '_' || c = '-'

/-- Takes one part of a key. -/
def keyPart : Scanner String := do
  match ← peek with
  | some '"' => quotedText
  | some '\'' => quotedText
  | _ =>
    let word ← takeWhile isKeyChar
    if word.isEmpty then failure
    pure (String.ofList word)

/-- Takes a key, which may have several parts: those before the last, and the last. -/
def key : Scanner (List String × String) :=
  parts depthLimit
where
  /-- Takes the parts of a key, at most a given number of them. -/
  parts : Nat → Scanner (List String × String)
    | 0 => failure
    | most + 1 => do
      blanks
      let part ← keyPart
      blanks
      if (← peek) = some '.' then
        char '.'
        let (path, last) ← parts most
        pure (part :: path, last)
      else pure ([], part)

mutual

/-- Takes a value. So many brackets and braces may be opened inside as `depth` says. -/
def value (depth : Nat) : Nat → Scanner Node
  | 0 => failure
  | fuel + 1 => do
    match ← peek with
    | some '"' => (fun text => Node.leaf (.text text)) <$> string
    | some '\'' => (fun text => Node.leaf (.text text)) <$> string
    | some '[' =>
      if depth = 0 then failure
      char '['
      Node.array <$> items (depth - 1) fuel
    | some '\x7b' =>
      if depth = 0 then failure
      char '\x7b'
      blanks
      if (← peek) = some '\x7d' then
        char '\x7d'
        pure (.branch .braced [])
      else Node.branch .braced <$> pairs (depth - 1) fuel []
    | _ => Node.leaf <$> scalar

/-- Takes the items of an array and its closing bracket. -/
def items (depth : Nat) : Nat → Scanner (List Node)
  | 0 => failure
  | fuel + 1 => do
    space
    if (← peek) = some ']' then
      char ']'
      pure []
    else
      let item ← value depth fuel
      space
      if (← peek) = some ',' then
        char ','
        let rest ← items depth fuel
        pure (item :: rest)
      else
        char ']'
        pure [item]

/-- Takes the pairs of an inline table and its closing brace. -/
def pairs (depth : Nat) : Nat → Entries → Scanner Entries
  | 0, _ => failure
  | fuel + 1, entries => do
    let (path, last) ← key
    char '='
    blanks
    let item ← value depth fuel
    blanks
    match entries.define path last item .header with
    | none => failure
    | some entries =>
      if (← peek) = some ',' then
        char ','
        pairs depth fuel entries
      else
        char '\x7d'
        pure entries

end

/-! ### Lines -/

/-- A document as far as it has been read: its tables, and the path of the table that key-value
pairs go to. -/
structure Draft where
  entries : Entries := []
  path : List String := []

/-- Takes a table header. -/
def header (draft : Draft) : Scanner Draft := do
  char '['
  if (← peek) = some '[' then
    char '['
    let (path, last) ← key
    char ']'
    char ']'
    let entries ← draft.entries.addTable path last
    pure ⟨entries, path ++ [last]⟩
  else
    let (path, last) ← key
    char ']'
    let entries ← draft.entries.openTable path last
    pure ⟨entries, path ++ [last]⟩

/-- Takes a key-value pair. -/
def pair (draft : Draft) : Scanner Draft := do
  let (path, last) ← key
  char '='
  blanks
  let text ← get
  let item ← value depthLimit (text.length + 1)
  let entries ← draft.entries.change false draft.path .header fun origin inner =>
    inner.define path last item origin
  pure { draft with entries := entries }

/-- Takes lines up to the end of the text. -/
def lines : Nat → Draft → Scanner Draft
  | 0, _ => failure
  | fuel + 1, draft => do
    blanks
    match ← peek with
    | none => pure draft
    | some '[' =>
      let draft ← header draft
      endOfLine
      lines fuel draft
    | some c =>
      if c = '#' || c = '\n' || c = '\r' then
        endOfLine
        lines fuel draft
      else
        let draft ← pair draft
        endOfLine
        lines fuel draft

end Scanner

/-- The table that a document denotes, if it is a document. -/
def parse? (text : String) : Option Value :=
  let cs := match text.toList with
    | '\ufeff' :: rest => rest
    | cs => cs
  match Scanner.lines (cs.length + 1) {} cs with
  | some (draft, []) =>
    match finishTable draft.entries with
    | some (.table entries) => some (.table entries)
    | _ => none
  | _ => none

end CrashTriage.Toml

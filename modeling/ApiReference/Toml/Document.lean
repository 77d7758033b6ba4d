import ApiReference.Toml.Scalar

/-!
TOML documents. A document is a table; headers open tables inside it, and dotted keys do so too.
No table is opened twice, and none is opened in one way and added to in another.
-/

namespace ApiReference.Toml

/-- How a table came about. -/
inductive Opening where
  /-- By a header of its own, or as the document itself. -/
  | header
  /-- On the way to the table of a header. -/
  | onTheWay
  /-- By a dotted key. -/
  | dotted
  deriving DecidableEq

/-- What a key stands for while a document is read. -/
inductive Item where
  | value (v : Value)
  | table (opening : Opening) (entries : List (String × Item))
  /-- A list of tables, the latest first. -/
  | tables (entries : List (List (String × Item)))
  deriving Inhabited

abbrev Entries := List (String × Item)

/-- Entries with another item for a key. `f` is given the item that the key had. -/
def Entries.update (key : String) (f : Option Item → Option Item) (es : Entries) :
    Option Entries :=
  match es with
  | [] => (f none).map fun item => [(key, item)]
  | (k, item) :: rest =>
    if k == key then (f (some item)).map fun changed => (k, changed) :: rest
    else (Entries.update key f rest).map fun changed => (k, item) :: changed

/-- Entries with those of the table at the end of a path changed by `f`, which is told how that
table came about. Missing tables on the way are opened by `opening`. -/
def Entries.descend (opening : Opening) (f : Opening → Entries → Option Entries) (here : Opening)
    (es : Entries) : List String → Option Entries
  | [] => f here es
  | key :: path =>
    es.update key fun
      | none => (Entries.descend opening f opening [] path).map (.table opening)
      | some (.table how inner) =>
        -- A table with a header of its own takes nothing from a dotted key outside of it.
        if opening == .dotted && how == .header then none
        else (Entries.descend opening f how inner path).map (.table how)
      | some (.tables (last :: before)) =>
        (Entries.descend opening f .header last path).map fun changed =>
          .tables (changed :: before)
      | some (.tables []) | some (.value _) => none

def Entries.add (key : String) (v : Value) (es : Entries) : Option Entries :=
  es.update key fun
    | none => some (.value v)
    | some _ => none

def Entries.addDotted (path : List String) (key : String) (v : Value) (here : Opening)
    (es : Entries) : Option Entries :=
  es.descend .dotted (fun how inner =>
    if path.isEmpty || how == .dotted then inner.add key v else none) here path

mutual

def Item.toValue : Item → Value
  | .value v => v
  | .table _ es => .table (toValues es)
  | .tables ts => .list (toTables ts).reverse

def toValues : List (String × Item) → List (String × Value)
  | [] => []
  | (key, item) :: rest => (key, item.toValue) :: toValues rest

def toTables : List (List (String × Item)) → List Value
  | [] => []
  | es :: rest => .table (toValues es) :: toTables rest

end

/-- A text without leading spaces, tabs, line ends and comments; `inComment` says whether it
starts in a comment. -/
def skipBlank (inComment : Bool) : List Char → Option (List Char)
  | [] => some []
  | '\r' :: '\n' :: cs => skipBlank false cs
  | c :: cs =>
    if c == '\n' then skipBlank false cs
    else if inComment then if isPlain c then skipBlank true cs else none
    else if isSpace c then skipBlank false cs
    else if c == '#' then skipBlank true cs
    else some (c :: cs)

/-- The rest of a line after a value or a header: at most a comment, and then the line ends. -/
def skipLineEnd (cs : List Char) : Option (List Char) :=
  let rest := skipSpace cs
  let rest := if rest.head? == some '#' then rest.dropWhile isPlain else rest
  match rest with
  | [] => some []
  | '\n' :: after => some after
  | '\r' :: '\n' :: after => some after
  | _ => none

def isKeyChar (c : Char) : Bool := c.isAlphanum || c == '-' || c == '_'

def readKeyPart (cs : List Char) : Option (String × List Char) :=
  match cs with
  | '"' :: rest => (basicBody 0 rest).map fun (t, after) => (String.ofList t, after)
  | '\'' :: rest => (literalBody rest).map fun (t, after) => (String.ofList t, after)
  | _ =>
    let key := cs.takeWhile isKeyChar
    if key.isEmpty then none else some (String.ofList key, cs.drop key.length)

/-- How deep tables and lists may be nested, and how many parts a key may have. -/
def depthLimit : Nat := 79

/-- Reads a key of several parts, at most `count`, with dots between them. -/
def readKey : Nat → List Char → Option (List String × List Char)
  | 0, _ => none
  | count + 1, cs => do
    let (part, rest) ← readKeyPart (skipSpace cs)
    match skipSpace rest with
    | '.' :: later =>
      let (parts, after) ← readKey count later
      return (part :: parts, after)
    | after => return ([part], after)

mutual

def readValue (depth : Nat) (cs : List Char) : Option (Value × List Char) :=
  match cs with
  | '[' :: rest =>
    match depth with
    | 0 => none
    | depth + 1 => (readItems depth rest.length rest).map fun (vs, after) => (.list vs, after)
  | '\x7b' :: rest =>
    match depth with
    | 0 => none
    | depth + 1 =>
      match skipSpace rest with
      | '\x7d' :: after => some (.table [], after)
      | _ =>
        (readEntries depth rest.length [] rest).map fun (es, after) =>
          (.table (toValues es), after)
  | _ => readScalar cs
termination_by (depth, 0)

def readItems (depth fuel : Nat) (cs : List Char) : Option (List Value × List Char) := do
  match ← skipBlank false cs with
  | ']' :: after => return ([], after)
  | rest =>
    let (v, rest) ← readValue depth rest
    match ← skipBlank false rest with
    | ',' :: rest =>
      match fuel with
      | 0 => none
      | fuel + 1 =>
        let (vs, after) ← readItems depth fuel rest
        return (v :: vs, after)
    | ']' :: after => return ([v], after)
    | _ => none
termination_by (depth, fuel + 1)

def readEntries (depth fuel : Nat) (es : Entries) (cs : List Char) :
    Option (Entries × List Char) := do
  let (key, rest) ← readKey depthLimit cs
  match rest with
  | '=' :: rest =>
    let (v, rest) ← readValue depth (skipSpace rest)
    let es ← es.addDotted key.dropLast (key.getLast?.getD "") v .header
    match skipSpace rest with
    | ',' :: rest =>
      match fuel with
      | 0 => none
      | fuel + 1 => readEntries depth fuel es rest
    | '\x7d' :: after => return (es, after)
    | _ => none
  | _ => none
termination_by (depth, fuel + 1)

end

/-- A document on the way: all entries so far, and the path of the table that is open. -/
structure Reading where
  entries : Entries
  header : List String

def Reading.openTable (r : Reading) (path : List String) : Option Reading := do
  let key := path.getLast?.getD ""
  let es ← r.entries.descend .onTheWay (fun _ inner => inner.update key fun
    | none => some (.table .header [])
    | some (.table .onTheWay es) => some (.table .header es)
    | some _ => none) .header path.dropLast
  return ⟨es, path⟩

def Reading.openListed (r : Reading) (path : List String) : Option Reading := do
  let key := path.getLast?.getD ""
  let es ← r.entries.descend .onTheWay (fun _ inner => inner.update key fun
    | none => some (.tables [[]])
    | some (.tables ts) => some (.tables ([] :: ts))
    | some _ => none) .header path.dropLast
  return ⟨es, path⟩

def Reading.add (r : Reading) (key : List String) (v : Value) : Option Reading := do
  let es ← r.entries.descend .onTheWay
    (fun how inner => inner.addDotted key.dropLast (key.getLast?.getD "") v how) .header r.header
  return { r with entries := es }

def Reading.readLine (r : Reading) : List Char → Option (Reading × List Char)
  | '[' :: '[' :: cs => do
    let (path, rest) ← readKey depthLimit cs
    match rest with
    | ']' :: ']' :: rest => return (← r.openListed path, ← skipLineEnd rest)
    | _ => none
  | '[' :: cs => do
    let (path, rest) ← readKey depthLimit cs
    match rest with
    | ']' :: rest => return (← r.openTable path, ← skipLineEnd rest)
    | _ => none
  | cs => do
    let (key, rest) ← readKey depthLimit cs
    match rest with
    | '=' :: rest =>
      let (v, rest) ← readValue depthLimit (skipSpace rest)
      return (← r.add key v, ← skipLineEnd rest)
    | _ => none

def Reading.readLines : Nat → Reading → List Char → Option Reading
  | 0, _, _ => none
  | fuel + 1, r, cs => do
    match ← skipBlank false cs with
    | [] => return r
    | rest =>
      let (r, after) ← r.readLine rest
      readLines fuel r after

/-- Reads a document: the entries of its table. A byte order mark at its start is not part of
it. -/
def read (text : String) : Option (List (String × Value)) :=
  let cs := text.toList
  let cs := if cs.head? == some '\uFEFF' then cs.drop 1 else cs
  (Reading.readLines (cs.length + 1) ⟨[], []⟩ cs).map fun r => toValues r.entries

end ApiReference.Toml

import ConditionalForms.Toml.Scalar

/-!
# Reading TOML

Documents are read statement by statement: a key with its value, the header of a table, or the
header of one more table of a list. Marks on key paths tell which tables may still be opened or
extended.
-/

namespace ConditionalForms.Toml

/-- A dotted key. -/
abbrev Path := List String

/-- What a mark on a path forbids: any change below it, or opening it by a header. -/
inductive Mark where
  | frozen
  | explicit
  deriving DecidableEq

/-- Marks on paths. A frozen path is marked together with everything below it. -/
abbrev Marks := List (Path × Mark)

namespace Marks

/-- Whether a path carries a mark, or lies below a frozen path that does. -/
def holds (ms : Marks) (p : Path) (m : Mark) : Bool :=
  ms.any fun e => e.2 = m && (e.1 = p || (m = .frozen && e.1.isPrefixOf p))

/-- Removes the marks on a path and below it. -/
def clear (ms : Marks) (p : Path) : Marks := ms.filter fun e => !p.isPrefixOf e.1

end Marks

namespace Reader

open Scalar

/-- Turns a missing result into a malformed document. -/
def require {α : Type} : Option α → Except ReadFailure α
  | some a => .ok a
  | none => .error .malformed

def isBareKey (c : Char) : Bool := c.isAlphanum || c = '-' || c = '_'

/-- One part of a key: bare, or a string of one line. -/
def keyPart? (cs : List Char) : Option (String × List Char) :=
  match cs with
  | '\'' :: r => (literalLine r).map fun s => (String.ofList s.1, s.2)
  | '"' :: r => (basic false .text r).map fun s => (String.ofList s.1, s.2)
  | _ =>
    match cs.span isBareKey with
    | ([], _) => none
    | (k, rest) => some (String.ofList k, rest)

def key? : Nat → List Char → Option (Path × List Char)
  | 0, _ => none
  | fuel + 1, cs => do
    let (k, rest) ← keyPart? cs
    match rest.dropWhile isSpace with
    | '.' :: rest => (key? fuel (rest.dropWhile isSpace)).map fun r => (k :: r.1, r.2)
    | rest => some ([k], rest)

/-- The text after space, newlines and comments. -/
def skipFiller : (comment : Bool) → List Char → Except ReadFailure (List Char)
  | _, [] => .ok []
  | true, c :: cs =>
    if c = '\n' then skipFiller false cs
    else if isControl c then .error .malformed
    else skipFiller true cs
  | false, c :: cs =>
    if isSpaceOrLine c then skipFiller false cs
    else if c = '#' then skipFiller true cs
    else .ok (c :: cs)

/-- Changes the table at a path, made if it is not there. Lists are entered at their last item if
`lists` holds. No result if something else than a table lies on the path, or if the change has none.
-/
def updateAt (lists : Bool) (change : Fields → Option Fields) : Path → Fields → Option Fields
  | [], fields => change fields
  | k :: path, fields => do
    let inner ←
      match Assoc.get? fields k with
      | none => (updateAt lists change path []).map .table
      | some (.table t) => (updateAt lists change path t).map .table
      | some (.list items) =>
        if lists then
          match items.getLast? with
          | some (.table t) =>
            (updateAt lists change path t).map fun t => .list (items.dropLast ++ [.table t])
          | _ => none
        else none
      | some _ => none
    some (Assoc.put k inner fields)

def insertNew (k : String) (v : Value) (fields : Fields) : Option Fields :=
  match Assoc.get? fields k with
  | none => some (Assoc.put k v fields)
  | some _ => none

/-- Whether a value freezes the path that it is written to. -/
def freezes : Value → Bool
  | .list _ | .table _ => true
  | _ => false

/-- An inline table while it is read. -/
structure Inline where
  fields : Fields
  marks : Marks

/-- Writes a value to a dotted key of an inline table. -/
def Inline.insert (t : Inline) (key : Path) (v : Value) : Option Inline :=
  match key.getLast? with
  | none => none
  | some stem =>
    if t.marks.holds key .frozen then none
    else do
      let fields ← updateAt false (insertNew stem v) key.dropLast t.fields
      some ⟨fields, if freezes v then (key, .frozen) :: t.marks else t.marks⟩

/-- What is left of the room for nesting after a level of the given cost. -/
def narrowed (room cost : Nat) : Except ReadFailure Nat :=
  if cost ≤ room then .ok (room - cost) else .error .tooDeep

mutual

/-- A value. `fuel` bounds the steps and `room` the nesting, in which a list costs two and an inline
table three. -/
def value : (fuel room : Nat) → List Char → Except ReadFailure (Value × List Char)
  | 0, _, _ => .error .malformed
  | fuel + 1, room, cs =>
    match cs with
    | [] => .error .malformed
    | c :: r =>
      if c = '"' || c = '\'' then
        require ((string? cs).map fun s => (.text (String.ofList s.1), s.2))
      else if "true".toList.isPrefixOf cs then .ok (.bool true, cs.drop 4)
      else if "false".toList.isPrefixOf cs then .ok (.bool false, cs.drop 5)
      else if c = '[' then do
        let room ← narrowed room 2
        let r ← skipFiller false r
        items fuel room [] r
      else if c = '{' then do
        let room ← narrowed room 3
        match r.dropWhile isSpace with
        | '}' :: r => .ok (.table [], r)
        | r => members fuel room ⟨[], []⟩ r
      else
        match moment? cs with
        | some result => result
        | none =>
          match number? cs with
          | some result => result
          | none => require (specialFloat? cs)

/-- The items of a list up to its bracket; a comma may stand after the last one. -/
def items : (fuel room : Nat) → List Value → List Char → Except ReadFailure (Value × List Char)
  | 0, _, _, _ => .error .malformed
  | fuel + 1, room, before, cs =>
    match cs with
    | ']' :: r => .ok (.list before, r)
    | cs => do
      let (v, r) ← value fuel room cs
      let r ← skipFiller false r
      match r with
      | ']' :: r => .ok (.list (before ++ [v]), r)
      | ',' :: r => do
        let r ← skipFiller false r
        items fuel room (before ++ [v]) r
      | _ => .error .malformed

/-- The keys and values of an inline table up to its brace. -/
def members : (fuel room : Nat) → Inline → List Char → Except ReadFailure (Value × List Char)
  | 0, _, _, _ => .error .malformed
  | fuel + 1, room, t, cs => do
    let (key, r) ← require (key? fuel cs)
    match r with
    | '=' :: r =>
      let (v, r) ← value fuel room (r.dropWhile isSpace)
      let t ← require (t.insert key v)
      match r.dropWhile isSpace with
      | '}' :: r => .ok (.table t.fields, r)
      | ',' :: r => members fuel room t (r.dropWhile isSpace)
      | _ => .error .malformed
    | _ => .error .malformed

end

def nestingRoom : Nat := 988

/-- A document while it is read: its fields, the marks, the marks that the next header sets, and the
path of the open table. -/
structure State where
  fields : Fields := []
  marks : Marks := []
  pending : Marks := []
  header : Path := []

/-- The non-empty proper beginnings of a path. -/
def beginnings (p : Path) : List Path := (List.range' 1 (p.length - 1)).map (p.take ·)

/-- Writes a value to a dotted key of the open table. -/
def State.insert (s : State) (key : Path) (v : Value) : Option State :=
  match key.getLast? with
  | none => none
  | some stem =>
    let opened := (beginnings key).map (s.header ++ ·)
    let parent := s.header ++ key.dropLast
    if opened.any (s.marks.holds · .explicit) || s.marks.holds parent .frozen then none
    else do
      let fields ← updateAt true (insertNew stem v) parent s.fields
      some { s with
        fields
        pending := opened.map (·, .explicit) ++ s.pending
        marks := if freezes v then (s.header ++ key, .frozen) :: s.marks else s.marks }

/-- Sets the marks that were waiting for a header. -/
def State.settle (s : State) : State := { s with marks := s.pending ++ s.marks, pending := [] }

def State.openTable (s : State) (key : Path) : Option State :=
  if s.marks.holds key .explicit || s.marks.holds key .frozen then none
  else do
    let fields ← updateAt true some key s.fields
    some { s with fields, marks := (key, .explicit) :: s.marks, header := key }

def appendTable (k : String) (fields : Fields) : Option Fields :=
  match Assoc.get? fields k with
  | none => some (Assoc.put k (.list [.table []]) fields)
  | some (.list items) => some (Assoc.put k (.list (items ++ [.table []])) fields)
  | some _ => none

def State.openItem (s : State) (key : Path) : Option State :=
  match key.getLast? with
  | none => none
  | some stem =>
    if s.marks.holds key .frozen then none
    else do
      let fields ← updateAt true (appendTable stem) key.dropLast s.fields
      some { s with fields, marks := (key, .explicit) :: s.marks.clear key, header := key }

/-- One statement that is not blank: a header, or a key with its value. -/
def statement (fuel : Nat) (s : State) (cs : List Char) : Except ReadFailure (State × List Char) :=
  match cs with
  | '[' :: '[' :: r => do
    let s := s.settle
    let (key, r) ← require (key? fuel (r.dropWhile isSpace))
    let s ← require (s.openItem key)
    match r with
    | ']' :: ']' :: r => .ok (s, r)
    | _ => .error .malformed
  | '[' :: r => do
    let s := s.settle
    let (key, r) ← require (key? fuel (r.dropWhile isSpace))
    let s ← require (s.openTable key)
    match r with
    | ']' :: r => .ok (s, r)
    | _ => .error .malformed
  | '#' :: _ => .ok (s, cs)
  | _ => do
    let (key, r) ← require (key? fuel cs)
    match r with
    | '=' :: r =>
      let (v, r) ← value fuel nestingRoom (r.dropWhile isSpace)
      let s ← require (s.insert key v)
      .ok (s, r)
    | _ => .error .malformed

/-- The text after an optional comment. -/
def afterComment (cs : List Char) : Except ReadFailure (List Char) :=
  match cs with
  | '#' :: r =>
    if (r.takeWhile (· ≠ '\n')).any isControl then .error .malformed
    else .ok (r.dropWhile (· ≠ '\n'))
  | _ => .ok cs

def statements : Nat → State → List Char → Except ReadFailure State
  | 0, _, _ => .error .malformed
  | fuel + 1, s, cs =>
    match cs.dropWhile isSpace with
    | [] => .ok s
    | '\n' :: r => statements fuel s r
    | cs => do
      let (s, r) ← statement (2 * cs.length + 1) s cs
      let r ← afterComment (r.dropWhile isSpace)
      match r with
      | [] => .ok s
      | '\n' :: r => statements fuel s r
      | _ => .error .malformed

end Reader

def read (cs : List Char) : Except ReadFailure Fields :=
  (Reader.statements (cs.length + 1) {} cs).map (·.fields)

end ConditionalForms.Toml

/-!
# TOML values and tables

The values of a TOML document, and how a document grows: keys and headers name a path of tables
that starts at the root, missing tables are made on the way, and a value is put where there is
none yet.

How a table came to be decides what may still be added to it, so a table remembers its origin.
-/

namespace Outflow.Toml

/-- How a table came to be. -/
inductive Origin where
  /-- Written between braces; it is complete. -/
  | inlined
  /-- Opened by a header of its own, or the root. -/
  | headed
  /-- Named on the way to a table with a header. -/
  | passed
  /-- Named on the way to a key with dots. -/
  | dotted
  deriving DecidableEq, Repr

/-- A number with a fraction or an exponent. -/
inductive FloatValue where
  /-- The number `coefficient * 10 ^ exponent`. -/
  | finite (coefficient : Nat) (exponent : Int)
  | infinite
  | notANumber
  deriving DecidableEq, Repr

/-- A value. -/
inductive Value where
  | string (s : String)
  /-- A whole number.  One whose digits make no number is noticed only where it is used. -/
  | integer (n : Option Int)
  | float (x : FloatValue)
  | boolean (b : Bool)
  | datetime (text : String)
  | array (elements : List Value)
  /-- The tables that were opened, in turn, by a header in double brackets. -/
  | tables (entries : List (List (String × Value)))
  | table (origin : Origin) (entries : List (String × Value))
  deriving Repr

/-- The keys of a table with their values, in the order in which they were given. -/
abbrev Entries := List (String × Value)

namespace Entries

/-- The value of a key. -/
def get? (es : Entries) (key : String) : Option Value := (es.find? (·.1 = key)).map (·.2)

/-- Give a key another value. -/
def replace (es : Entries) (key : String) (v : Value) : Entries :=
  es.map fun (k, old) => if k = key then (k, v) else (k, old)

/-- Take a key out. -/
def erase (es : Entries) (key : String) : Entries := es.filter (·.1 ≠ key)

/-- The keys of a table. -/
def keys (es : Entries) : List String := es.map (·.1)

/-- Change the table at the end of a path; a table that is missing on the way is made.  Along a
key with dots, a table with a header of its own is left alone.  Of tables that share a header
the last one is meant. -/
def update (dotted : Bool) (change : Origin → Entries → Option Entries) (origin : Origin)
    (es : Entries) : List String → Option Entries
  | [] => change origin es
  | key :: path =>
    match es.get? key with
    | none =>
      let made := if dotted then Origin.dotted else .passed
      (update dotted change made [] path).map fun inner => es ++ [(key, .table made inner)]
    | some (.table .inlined _) => none
    | some (.table o inner) =>
      if dotted && o = .headed then none
      else (update dotted change o inner path).map fun inner => es.replace key (.table o inner)
    | some (.tables ts) =>
      match ts.getLast? with
      | none => none
      | some inner =>
        (update dotted change .headed inner path).map fun inner =>
          es.replace key (.tables (ts.dropLast ++ [inner]))
    | some _ => none

/-- Put a value where there is none. -/
def add? (es : Entries) (key : String) (v : Value) : Option Entries :=
  match es.get? key with
  | none => some (es ++ [(key, v)])
  | some _ => none

/-- Put a value at the end of a key with dots.  The tables on its way belong to such keys alone,
and a key without dots does not add to them. -/
def assign? (es : Entries) (origin : Origin) (path : List String) (key : String) (v : Value) :
    Option Entries :=
  let put (o : Origin) (inner : Entries) : Option Entries :=
    if (o == .dotted) == path.isEmpty then none else inner.add? key v
  update (!path.isEmpty) put origin es path

/-- Take out the table that a header opens.  It has no entries unless it was passed before. -/
def opened? (es : Entries) (path : List String) (key : String) : Option Entries :=
  match path with
  | [] =>
    match es.get? key with
    | none => some []
    | some (.table .passed inner) => some inner
    | some _ => none
  | first :: path =>
    match es.get? first with
    | none => some []
    | some (.table .inlined _) => none
    | some (.table _ inner) => opened? inner path key
    | some (.tables ts) =>
      match ts.getLast? with
      | none => none
      | some inner => opened? inner path key
    | some _ => none

/-- Put the table of a header in its place, instead of one that was only passed. -/
def close? (es : Entries) (path : List String) (key : String) (table : Entries) : Option Entries :=
  update false (fun _ inner => (inner.erase key).add? key (.table .headed table)) .headed es path

/-- Put the table of a header in double brackets after those before it. -/
def append? (es : Entries) (path : List String) (key : String) (table : Entries) :
    Option Entries :=
  update false
    (fun _ inner =>
      match inner.get? key with
      | none => some (inner ++ [(key, .tables [table])])
      | some (.tables ts) => some (inner.replace key (.tables (ts ++ [table])))
      | some _ => none)
    .headed es path

end Entries

end Outflow.Toml

import DeclRules.Toml.Value

/-! Tables while a document is read. What may still be added to a table depends on how it came to
be, so that is kept until the end. -/

namespace DeclRules.Toml

/-- How a table came to be. -/
inductive Making where
  /-- By a header of its own. -/
  | header
  /-- As a part of the name in a header. -/
  | implied
  /-- As a part of a key with dots. -/
  | dotted
deriving DecidableEq

inductive Node where
  | leaf (v : Value)
  | table (how : Making) (entries : List (String × Node))
  /-- The tables of one repeated header; only the last can still grow. The earlier ones are
  listed backwards. -/
  | rows (last : List (String × Node)) (earlier : List (List (String × Node)))

abbrev Entries := List (String × Node)

namespace Entries

/-- Replaces the node under a key that is there. -/
def replace (k : String) (n : Node) : Entries → Entries
  | [] => []
  | (k', n') :: es => if k = k' then (k, n) :: es else (k', n') :: replace k n es

/-- Removes the node under a key. -/
def remove (k : String) (es : Entries) : Entries := es.filter (·.1 ≠ k)

/-- Follows a path and changes the entries it leads to, of which `f` also hears how their table
came to be. Tables that are missing on the way are made; of repeated tables the last one is
meant. A path of dotted keys does not lead into a table with a header. -/
def alter (dotted : Bool) (f : Making → Entries → Option Entries) :
    List String → Making → Entries → Option Entries
  | [], how, es => f how es
  | k :: path, _, es =>
    match es.lookup k with
    | none => do
      let how := if dotted then .dotted else .implied
      return es ++ [(k, .table how (← alter dotted f path how []))]
    | some (.table how inner) => do
      if dotted ∧ how = .header then none
      return replace k (.table how (← alter dotted f path how inner)) es
    | some (.rows last earlier) => do
      return replace k (.rows (← alter dotted f path .header last) earlier) es
    | some (.leaf _) => none

/-- Adds a value under a key with dots. The tables on the way are those that such keys make; none
but them may be added to. -/
def insert (path : List String) (k : String) (v : Value) (how : Making) (es : Entries) :
    Option Entries :=
  alter true (fun how es => do
    if how = .dotted ↔ path = [] then none
    if (es.lookup k).isSome then none
    return es ++ [(k, .leaf v)]) path how es

/-- Opens the table of a header; one that was only implied moves to the end. -/
def openTable (path : List String) (k : String) (es : Entries) : Option Entries :=
  alter false (fun _ es =>
    match es.lookup k with
    | none => some (es ++ [(k, .table .header [])])
    | some (.table .implied inner) => some (remove k es ++ [(k, .table .header inner)])
    | some _ => none) path .header es

/-- Opens one more table of a repeated header. -/
def openRow (path : List String) (k : String) (es : Entries) : Option Entries :=
  alter false (fun _ es =>
    match es.lookup k with
    | none => some (es ++ [(k, .rows [] [])])
    | some (.rows last earlier) => some (replace k (.rows [] (last :: earlier)) es)
    | some _ => none) path .header es

mutual

/-- The values of finished entries. -/
def values : Entries → List (String × Value)
  | [] => []
  | (k, n) :: es => (k, nodeValue n) :: values es

def nodeValue : Node → Value
  | .leaf v => v
  | .table _ es => .table (values es)
  | .rows last earlier => .array (rowValues earlier [.table (values last)])

/-- The values of rows listed backwards, in front of others. -/
def rowValues : List Entries → List Value → List Value
  | [], vs => vs
  | es :: rows, vs => rowValues rows (.table (values es) :: vs)

end

end Entries

end DeclRules.Toml

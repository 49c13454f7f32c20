import DeclRules.Toml.Scan
import DeclRules.Toml.Table

/-! TOML documents. -/

namespace DeclRules.Toml

namespace Reader

/-- How many arrays and inline tables may stand inside each other. -/
def maxNesting : Nat := 79

mutual

/-- A value with at most `room` arrays and inline tables inside each other. Every step takes a
unit of fuel; twice the length of the text and two more are enough. -/
def value (fuel room : Nat) : Reader Value := do
  match fuel, ← peek with
  | 0, _ => failure
  | _, none => failure
  | fuel + 1, some c =>
    if c == '"' || c == '\'' then Value.string <$> string
    else if c == '[' then
      match room with
      | 0 => failure
      | room + 1 => char '['; Value.array <$> items fuel room
    else if c == '\x7b' then
      match room with
      | 0 => failure
      | room + 1 =>
        char '\x7b'
        skipWs
        if (← peek) == some '\x7d' then char '\x7d'; return .table []
        return .table (← pairs fuel room []).values
    else if c == 't' then word "true"; return .bool true
    else if c == 'f' then word "false"; return .bool false
    else if c == 'i' || c == 'n' then Value.real <$> specialNumber
    else numeric

/-- What stands between an opening bracket and its closing one, which is taken. -/
def items (fuel room : Nat) : Reader (List Value) := do
  match fuel with
  | 0 => failure
  | fuel + 1 =>
    gap
    if (← peek) == some ']' then char ']'; return []
    let v ← value fuel room
    gap
    if (← peek) == some ',' then char ','; return v :: (← items fuel room)
    char ']'
    return [v]

/-- Pairs up to the closing brace, which is taken, added to those before. -/
def pairs (fuel room : Nat) (es : Entries) : Reader Entries := do
  match fuel with
  | 0 => failure
  | fuel + 1 =>
    let k ← key
    char '='
    skipWs
    let v ← value fuel room
    let some es := es.insert k.path k.last v .header | failure
    skipWs
    if (← peek) == some ',' then char ','; pairs fuel room es
    else char '\x7d'; return es

end

/-- The lines of a document from here on. New keys go to the table that `here` leads to, and
headers lead from `es`. -/
def lines (fuel : Nat) (here : List String) (es : Entries) : Reader Entries := do
  match fuel with
  | 0 => failure
  | fuel + 1 =>
    skipWs
    match ← get with
    | [] => return es
    | '[' :: '[' :: r =>
      set r
      let k ← key
      word "]]"
      endOfLine
      let some es := es.openRow k.path k.last | failure
      lines fuel (k.path ++ [k.last]) es
    | '[' :: r =>
      set r
      let k ← key
      char ']'
      endOfLine
      let some es := es.openTable k.path k.last | failure
      lines fuel (k.path ++ [k.last]) es
    | c :: r =>
      if c == '#' || c == '\n' || c == '\r' then
        endOfLine
        lines fuel here es
      else
        let k ← key
        char '='
        skipWs
        let v ← value (2 * r.length + 4) maxNesting
        endOfLine
        let some es := Entries.alter false (fun how es => es.insert k.path k.last v how) here
          .header es | failure
        lines fuel here es

end Reader

/-- The members of a document, if its text follows the grammar and says nothing twice. A byte order
mark at the start is ignored. -/
def read (s : String) : Option (List (String × Value)) :=
  let cs := match s.toList with
    | '\uFEFF' :: r => r
    | cs => cs
  (Reader.lines (cs.length + 1) [] [] cs).map fun (es, _) => es.values

end DeclRules.Toml

import DeclRules.Decimal.Binary64
import DeclRules.Toml.Value
import DeclRules.Unicode.CharSet

/-! The tokens of TOML: gaps, strings, keys, numbers and dates. A reader takes what it reads from
the start of a text and leaves the rest, or fails. -/

namespace DeclRules.Toml

open Decimal

abbrev Reader := StateT (List Char) Option

def isWs (c : Char) : Bool := c == ' ' || c == '\t'

/-- Characters of comments; those of strings are among them. -/
def isPlain (c : Char) : Bool := c == '\t' || (0x20 ≤ c.toNat && c.toNat != 0x7F)

namespace Reader

def skipWs : Reader Unit := modify (·.dropWhile isWs)

/-- Takes a character that the test allows. -/
def one (ok : Char → Bool) : Reader Char := fun s =>
  match s with
  | c :: r => if ok c then some (c, r) else none
  | [] => none

def char (c : Char) : Reader Unit := do let _ ← one (· == c)

/-- Takes a word. -/
def word (w : String) : Reader Unit := w.toList.forM char

def peek : Reader (Option Char) := return (← get).head?

/-- Takes a line feed, with a carriage return before it or not. -/
def newline : Reader Unit := fun s =>
  match s with
  | '\n' :: r => some ((), r)
  | '\r' :: '\n' :: r => some ((), r)
  | _ => none

/-- Takes what the reader reads, if it reads something. -/
def maybe {α : Type} (p : Reader α) : Reader (Option α) := fun s =>
  match p s with
  | some (a, r) => some (some a, r)
  | none => some (none, s)

/-- Takes a comment, if there is one. -/
def comment : Reader Unit := modify fun s =>
  match s with
  | '#' :: r => r.dropWhile isPlain
  | s => s

/-- Takes the end of a line, behind a comment or not; the end of the text will do. -/
def endOfLine : Reader Unit := do
  skipWs
  comment
  if (← get).isEmpty then return
  newline

/-- What is left after blanks, line ends and comments that a line end follows. -/
def dropGap (inComment : Bool) : List Char → List Char
  | [] => []
  | '\n' :: r => dropGap false r
  | '\r' :: '\n' :: r => dropGap false r
  | c :: r =>
    if inComment then if isPlain c then dropGap true r else c :: r
    else if isWs c then dropGap false r
    else if c == '#' then dropGap true r
    else c :: r

def gap : Reader Unit := modify (dropGap false)

/-! ### Strings -/

def isHex (c : Char) : Bool := (Unicode.hexDigit? c).isSome

/-- The character of hexadecimal digits. -/
def ofHex? (ds : List Char) : Option Char := do
  let n ← ds.foldlM (fun n d => do return 16 * n + (← Unicode.hexDigit? d)) 0
  if n < 0xD800 ∨ (0xDFFF < n ∧ n < 0x110000) then some (Char.ofNat n) else none

def simpleEscape? : Char → Option Char
  | 'b' => some '\x08'
  | 'f' => some '\x0c'
  | 'n' => some '\n'
  | 'r' => some '\r'
  | 't' => some '\t'
  | '\\' => some '\\'
  | '"' => some '"'
  | _ => none

/-- The character of an escape, whose backslash is taken. -/
def escaped (s : List Char) : Option (Char × List Char) :=
  match s with
  | 'u' :: r => if r.length < 4 then none else (ofHex? (r.take 4)).map (·, r.drop 4)
  | 'U' :: r => if r.length < 8 then none else (ofHex? (r.take 8)).map (·, r.drop 8)
  | c :: r => (simpleEscape? c).map (·, r)
  | [] => none

theorem length_of_escaped {s : List Char} {p : Char × List Char} (h : escaped s = some p) :
    p.2.length < s.length := by
  unfold escaped at h
  split at h <;> first
    | contradiction
    | (split at h
       · contradiction
       · obtain ⟨_, _, rfl⟩ := Option.map_eq_some_iff.mp h
         simp only [List.length_drop, List.length_cons]
         omega)
    | (obtain ⟨_, _, rfl⟩ := Option.map_eq_some_iff.mp h
       simp)

/-- The rest of a string in double quotes. -/
def basic (s : List Char) : Option (List Char × List Char) :=
  match s with
  | [] => none
  | '"' :: r => some ([], r)
  | '\\' :: r =>
    match h : escaped r with
    | none => none
    | some (c, r') =>
      have := length_of_escaped h
      (basic r').map fun (cs, rest) => (c :: cs, rest)
  | c :: r => if isPlain c then (basic r).map fun (cs, rest) => (c :: cs, rest) else none
termination_by s.length
decreasing_by all_goals simp_all only [List.length_cons]; omega

/-- The rest of a string in single quotes, which has no escapes. -/
def literal : List Char → Option (List Char × List Char)
  | [] => none
  | '\'' :: r => some ([], r)
  | c :: r => if isPlain c then (literal r).map fun (cs, rest) => (c :: cs, rest) else none

/-- Behind three quotes that close a string: up to two more quotes belong to it. -/
def closing (quote : Char) : List Char → List Char × List Char
  | c :: d :: r =>
    if c == quote then if d == quote then ([c, d], r) else ([c], d :: r) else ([], c :: d :: r)
  | [c] => if c == quote then ([c], []) else ([], [c])
  | [] => ([], [])

/-- Whether only blanks stand before the next line end. -/
def endsLine (s : List Char) : Bool :=
  match s.dropWhile isWs with
  | '\n' :: _ => true
  | '\r' :: '\n' :: _ => true
  | _ => false

/-- The rest of a string in three double quotes. A backslash at the end of a line makes the
blanks and line ends up to the next other character vanish; `skipping` says that they are. -/
def basicLines (skipping : Bool) (s : List Char) : Option (List Char × List Char) :=
  match s with
  | [] => none
  | '"' :: '"' :: '"' :: r => some (closing '"' r)
  | '\n' :: r =>
    if skipping then basicLines true r
    else (basicLines false r).map fun (cs, rest) => ('\n' :: cs, rest)
  | '\r' :: '\n' :: r =>
    if skipping then basicLines true r
    else (basicLines false r).map fun (cs, rest) => ('\n' :: cs, rest)
  | '\\' :: r =>
    if endsLine r then basicLines true r
    else match h : escaped r with
      | none => none
      | some (c, r') =>
        have := length_of_escaped h
        (basicLines false r').map fun (cs, rest) => (c :: cs, rest)
  | c :: r =>
    if skipping && isWs c then basicLines true r
    else if isPlain c then (basicLines false r).map fun (cs, rest) => (c :: cs, rest)
    else none
termination_by s.length
decreasing_by all_goals simp_all only [List.length_cons]; omega

/-- The rest of a string in three single quotes. -/
def literalLines : List Char → Option (List Char × List Char)
  | [] => none
  | '\'' :: '\'' :: '\'' :: r => some (closing '\'' r)
  | '\n' :: r => (literalLines r).map fun (cs, rest) => ('\n' :: cs, rest)
  | '\r' :: '\n' :: r => (literalLines r).map fun (cs, rest) => ('\n' :: cs, rest)
  | c :: r => if isPlain c then (literalLines r).map fun (cs, rest) => (c :: cs, rest) else none

/-- A string on one line. -/
def shortString : Reader String := fun s =>
  match s with
  | '"' :: r => (basic r).map fun (cs, r) => (String.ofList cs, r)
  | '\'' :: r => (literal r).map fun (cs, r) => (String.ofList cs, r)
  | _ => none

/-- A string of any of the four forms; three quotes may stand on a line of their own. -/
def string : Reader String := fun s =>
  match s with
  | '"' :: '"' :: '"' :: r => do
    let (_, r) ← maybe newline r
    (basicLines false r).map fun (cs, r) => (String.ofList cs, r)
  | '\'' :: '\'' :: '\'' :: r => do
    let (_, r) ← maybe newline r
    (literalLines r).map fun (cs, r) => (String.ofList cs, r)
  | s => shortString s

/-! ### Keys -/

def isKeyChar (c : Char) : Bool := c.isAlphanum || c == '-' || c == '_'

def simpleKey : Reader String := fun s =>
  match s with
  | '"' :: _ | '\'' :: _ => shortString s
  | s =>
    match s.span isKeyChar with
    | ([], _) => none
    | (cs, r) => some (String.ofList cs, r)

/-- The most names that a key may have. -/
def maxKeyParts : Nat := 79

/-- At most `room` names with dots between them. -/
def keyParts : (room : Nat) → Reader (List String)
  | 0 => failure
  | room + 1 => do
    skipWs
    let k ← simpleKey
    skipWs
    if (← peek) == some '.' then
      char '.'
      return k :: (← keyParts room)
    return [k]

/-- A key: the names that lead to a table, and the name in it. -/
structure Key where
  path : List String
  last : String

def key : Reader Key := do
  let parts ← keyParts maxKeyParts
  match parts.getLast? with
  | some last => return ⟨parts.dropLast, last⟩
  | none => failure

/-! ### Numbers -/

def isDigit (c : Char) : Bool := c.isDigit

/-- More digits, between which a single underscore may stand. -/
def moreDigits (ok : Char → Bool) : List Char → List Char × List Char
  | '_' :: c :: r =>
    if ok c then
      let (cs, rest) := moreDigits ok r
      (c :: cs, rest)
    else ([], '_' :: c :: r)
  | c :: r =>
    if ok c then
      let (cs, rest) := moreDigits ok r
      (c :: cs, rest)
    else ([], c :: r)
  | [] => ([], [])

/-- One digit or more. -/
def digits (ok : Char → Bool) : Reader (List Char) := do
  let c ← one ok
  return c :: (← modifyGet (moreDigits ok))

/-- Decimal digits of which the first is a zero only if it is alone. -/
def wholeDigits : Reader (List Char) := fun s =>
  match s with
  | '0' :: r => some (['0'], r)
  | s => digits isDigit s

/-- The number of digits to a base. -/
def ofDigits (base : Nat) (ds : List Char) : Nat :=
  ds.foldl (fun n d => base * n + (Unicode.hexDigit? d).getD 0) 0

/-- A sign, `true` for minus; none counts as plus. -/
def sign : Reader Bool := fun s =>
  match s with
  | '-' :: r => some (true, r)
  | '+' :: r => some (false, r)
  | s => some (false, s)

/-- An integer that fits 64 bits. -/
def checked (n : Int) : Reader Value :=
  if -0x8000000000000000 ≤ n ∧ n < 0x8000000000000000 then return .int n else failure

/-- Digits to a base whose letter stands behind a zero. -/
def based (base : Nat) (ok : Char → Bool) : Reader Value := do
  checked (ofDigits base (← digits ok))

def integer : Reader Value := fun s =>
  match s with
  | '0' :: 'x' :: r => based 16 isHex r
  | '0' :: 'o' :: r => based 8 (fun c => '0' ≤ c && c ≤ '7') r
  | '0' :: 'b' :: r => based 2 (fun c => c == '0' || c == '1') r
  | s => (do
      let negative ← sign
      let n : Int := ofDigits 10 (← wholeDigits)
      checked (if negative then -n else n) : Reader Value) s

/-- A decimal as the nearest float. One that is too large is refused, but not one that is too
small. -/
def decimal (negative : Bool) (n : Nat) (exponent : Int) : Option Real :=
  match Binary64.ofMagnitude? negative (nearest n exponent) with
  | some x => some (.finite x)
  | none => if negative then some (.infinite true) else none

def exponent : Reader Int := do
  let _ ← one fun c => c == 'e' || c == 'E'
  let negative ← sign
  let n : Int := ofDigits 10 (← digits isDigit)
  return if negative then -n else n

/-- A number with a fraction or an exponent, or with both. -/
def decimalNumber : Reader Real := do
  let negative ← sign
  let whole ← wholeDigits
  let fraction ← maybe (do char '.'; digits isDigit)
  let e ← if fraction.isSome then (·.getD 0) <$> maybe exponent else exponent
  let fraction := fraction.getD []
  match decimal negative (ofDigits 10 (whole ++ fraction)) (e - fraction.length) with
  | some x => return x
  | none => failure

/-- Infinity, or what is no number. -/
def specialNumber : Reader Real := do
  let negative ← sign
  (do word "inf"; return .infinite negative) <|> (do word "nan"; return .nan)

/-! ### Dates and times -/

/-- A number of exactly so many digits. -/
def fixed (count : Nat) : Reader Nat := fun s =>
  let ds := s.take count
  if ds.length = count ∧ ds.all isDigit then some (ofDigits 10 ds, s.drop count) else none

/-- A number of two digits up to a greatest one. -/
def upTo (greatest : Nat) : Reader Nat := do
  let n ← fixed 2
  if n ≤ greatest then return n else failure

def date : Reader Date := do
  let year ← fixed 4
  char '-'
  let month ← upTo 12
  char '-'
  let day ← upTo (daysIn year month)
  if month = 0 ∨ day = 0 then failure
  return { year, month, day }

/-- Nanoseconds of the digits of a fraction; digits beyond the ninth are dropped. -/
def nanoseconds (ds : List Char) : Nat :=
  let ds := ds.take 9
  ofDigits 10 ds * Nat.pow 10 (9 - ds.length)

def time : Reader Time := do
  let hour ← upTo 23
  char ':'
  let minute ← upTo 59
  char ':'
  let second ← upTo 60
  let fraction ← maybe do
    char '.'
    let c ← one isDigit
    return c :: (← modifyGet (·.span isDigit))
  return { hour, minute, second, nanosecond := nanoseconds (fraction.getD []) }

def offset : Reader Offset := fun s =>
  match s with
  | 'Z' :: r => some (.utc, r)
  | 'z' :: r => some (.utc, r)
  | s => (do
      let c ← one fun c => c == '+' || c == '-'
      let hours ← upTo 23
      char ':'
      let m : Int := 60 * hours + (← upTo 59)
      return .minutes (if c == '-' then -m else m) : Reader Offset) s

/-- A date, a time of day, or both of them. -/
def datetime : Reader Datetime :=
  (do
    let d ← date
    let rest ← maybe do
      let _ ← one fun c => c == 'T' || c == 't' || c == ' '
      let t ← time
      return (t, ← maybe offset)
    match rest with
    | some (t, o) => return .both d t o
    | none => return .date d) <|>
  (do return .time (← time))

/-- A value that starts with a digit or a sign. -/
def numeric : Reader Value :=
  (Value.datetime <$> datetime) <|> (Value.real <$> decimalNumber) <|>
    (Value.real <$> specialNumber) <|> integer

end Reader

end DeclRules.Toml

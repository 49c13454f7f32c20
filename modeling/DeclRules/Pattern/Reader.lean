import DeclRules.Pattern.Bracket

/-! Reading patterns. The reader goes through a pattern token by token and keeps the groups that
are open as a stack of levels: each level has its finished branches, the parts of the branch in
work, and outside it the levels of the groups around it. -/

namespace DeclRules.Pattern

/-- The inside of a group so far: finished branches and the parts of the last one, in reverse. -/
structure Level where
  branches : List Ast := []
  items : List Ast := []

namespace Level

def push (l : Level) (a : Ast) : Level := { l with items := a :: l.items }

/-- Closes the branch in work. -/
def branch (l : Level) : Level := { branches := .ofItems l.items.reverse :: l.branches }

/-- The syntax tree of the level. -/
def close (l : Level) : Ast :=
  match l.branches with
  | [] => .ofItems l.items.reverse
  | bs => .alternation (.ofItems l.items.reverse :: bs).reverse

/-- Applies a repetition to the last part, if it can be repeated. -/
def repeatLast (l : Level) (min : Nat) (max : Option Nat) (greedy : Bool) : Option Level :=
  match l.items with
  | [] | .empty :: _ | .flags _ :: _ => none
  | a :: items => some { l with items := .repeat min max greedy a :: items }

end Level

/-- An open group: what it is, the level it stands in and whether that is verbose. -/
structure OpenGroup where
  kind : GroupKind
  outside : Level
  verbose : Bool

structure State where
  level : Level := {}
  opened : List OpenGroup := []
  verbose : Bool := false
  /-- The group names so far. -/
  names : List String := []
  /-- The number of capture groups so far. -/
  captures : Nat := 0

namespace State

def push (st : State) (a : Ast) : State := { st with level := st.level.push a }

/-- The value that settings give verbose mode. -/
def verboseAfter (settings : FlagSettings) (before : Bool) : Bool :=
  (settings.lookup .verbose).getD before

def openGroup (st : State) (kind : GroupKind) : State :=
  { st with
    level := {}
    opened := { kind, outside := st.level, verbose := st.verbose } :: st.opened
    verbose := match kind with
      | .plain settings => verboseAfter settings st.verbose
      | .capture _ _ => st.verbose }

def capture (st : State) (name : Option String) : State :=
  { st with captures := st.captures + 1 }.openGroup (.capture (st.captures + 1) name)

def closeGroup (st : State) : Option State :=
  match st.opened with
  | [] => none
  | g :: opened =>
    some { st with
      level := g.outside.push (.group g.kind st.level.close)
      opened
      verbose := g.verbose }

end State

/-- A question mark behind a repetition makes it lazy. -/
def readLazy : List Char → Bool × List Char
  | '?' :: r => (true, r)
  | r => (false, r)

/-- The bounds of a repetition, its brace already taken. -/
def readBounds (verbose : Bool) : Reader (Nat × Option Nat) := fun s => do
  let (n, r) ← readDecimal verbose (skip verbose s)
  match r with
  | '\x7d' :: r => return ((n, some n), r)
  | ',' :: r =>
    match skip verbose r with
    | '\x7d' :: r => return ((n, none), r)
    | r =>
      let (m, r) ← readDecimal verbose r
      match r with
      | '\x7d' :: r => if n ≤ m then some ((n, some m), r) else none
      | _ => none
  | _ => none

/-- A group or a setting of flags, its parenthesis already taken. -/
def readGroup (st : State) (s : List Char) : Option (State × List Char) :=
  match skip st.verbose s with
  | '?' :: '=' :: _ | '?' :: '!' :: _ | '?' :: '<' :: '=' :: _ | '?' :: '<' :: '!' :: _ => none
  | '?' :: 'P' :: '<' :: r | '?' :: '<' :: r => do
    let (name, r) ← readGroupName [] r
    if name ∈ st.names then none
    else some ({ st with names := name :: st.names }.capture (some name), r)
  | '?' :: r => do
    let ((settings, isGroup), r) ← readFlags [] false false r
    if isGroup then some (st.openGroup (.plain settings), r)
    else if settings.isEmpty then none
    else some ({ st with verbose := State.verboseAfter settings st.verbose }.push (.flags settings), r)
  | r => some (st.capture none, r)

/-- Takes one token, of which `c` is the first character and `r` follows it. -/
def step (st : State) (c : Char) (r : List Char) : Option (State × List Char) :=
  let repeated (min : Nat) (max : Option Nat) (r : List Char) : Option (State × List Char) :=
    let (isLazy, r) := readLazy r
    (st.level.repeatLast min max !isLazy).map fun level => ({ st with level }, r)
  match c with
  | '(' => readGroup st r
  | ')' => st.closeGroup.map fun st => (st, r)
  | '|' => some ({ st with level := st.level.branch }, r)
  | '[' => (readBracket st.verbose r).map fun ((negated, c), r) => (st.push (.bracket negated c), r)
  | '?' => repeated 0 (some 1) r
  | '*' => repeated 0 none r
  | '+' => repeated 1 none r
  | '\x7b' => do
    let ((min, max), r) ← readBounds st.verbose r
    repeated min max (skip st.verbose r)
  | '\\' =>
    (readEscape st.verbose r).map fun (e, r) =>
      match e with
      | .atom a => (st.push (.atom a), r)
      | .assertion a => (st.push (.assertion a), r)
  | '.' => some (st.push .dot, r)
  | '^' => some (st.push (.assertion .lineStart), r)
  | '$' => some (st.push (.assertion .lineEnd), r)
  | c => some (st.push (.atom (.literal c false)), r)

/-- Takes all tokens; every one takes a unit of fuel. -/
def run (fuel : Nat) (st : State) (s : List Char) : Option State :=
  match skip st.verbose s with
  | [] => some st
  | c :: r =>
    match fuel with
    | 0 => none
    | fuel + 1 =>
      match step st c r with
      | some (st, r) => run fuel st r
      | none => none

/-- How deep a syntax tree may nest. -/
def maxDepth : Nat := 250

/-- The syntax tree of a pattern, if it is one. -/
def parse (s : List Char) : Option Ast := do
  let st ← run s.length {} s
  if st.opened.isEmpty && st.level.close.depth ≤ maxDepth then some st.level.close else none

end DeclRules.Pattern

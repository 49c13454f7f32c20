import DeclRules.Pattern.Expr

/-! How much room the automata of an expression take, by which patterns that are too large are
refused. There are two of them over the UTF-8 bytes of the text: one reads forward and keeps
groups, the other reads backward and does not. The room is the number of states and of their
edges, each with a weight; nothing is built to find it. -/

namespace DeclRules.Pattern

open Unicode

namespace Footprint

/-- The most that an automaton may take. -/
def limit : Nat := 10485760

def state : Nat := 32

/-- A state that goes on to one of `n` others without taking a byte. -/
def fork (n : Nat) : Nat := state + 4 * n

/-- A state that takes a byte of one of `n` ranges. -/
def choice (n : Nat) : Nat := state + 8 * n

def utf8Bytes (n : Nat) : List Nat :=
  if n < 0x80 then [n]
  else if n < 0x800 then [0xC0 + n / 64, 0x80 + n % 64]
  else if n < 0x10000 then [0xE0 + n / 4096, 0x80 + n / 64 % 64, 0x80 + n % 64]
  else [0xF0 + n / 262144, 0x80 + n / 4096 % 64, 0x80 + n / 64 % 64, 0x80 + n % 64]

/-- Where a range has to be cut so that the parts are closer to ranges of bytes: at a change of
length, and where leading bytes differ while trailing bytes do not go from first to last. -/
def cut? (lo hi : Nat) : Option Nat :=
  let lengths := [0x80, 0x800, 0x10000].find? fun k => lo < k && k ≤ hi
  let aligned := [64, 4096, 262144].findSome? fun b =>
    if lo / b = hi / b then none
    else if lo % b ≠ 0 then some ((lo / b + 1) * b)
    else if hi % b ≠ b - 1 then some (hi / b * b)
    else none
  lengths <|> aligned

/-- The byte ranges, one after another, that spell exactly the characters of a range. -/
def sequences (lo hi : Nat) : List (List (Nat × Nat)) :=
  match cut? lo hi with
  | some k =>
    if _h : lo < k ∧ k ≤ hi then sequences lo (k - 1) ++ sequences k hi
    else []
  | none => [(utf8Bytes lo).zip (utf8Bytes hi)]
termination_by hi - lo

def setSequences (s : CharSet) : List (List (Nat × Nat)) :=
  s.ranges.flatMap fun (lo, hi) => sequences lo hi

/-- Sequences gathered by their first byte range, which are left off. -/
def gather : List (List (Nat × Nat)) → List ((Nat × Nat) × List (List (Nat × Nat)))
  | [] => []
  | [] :: l => gather l
  | (b :: r) :: l =>
    match gather l with
    | (b', rs) :: gs => if b = b' then (b, r :: rs) :: gs else (b, [r]) :: (b', rs) :: gs
    | [] => [(b, [r])]

/-- The node of an automaton, by the nodes that its byte ranges lead to. -/
abbrev Node := List ((Nat × Nat) × Nat)

mutual

/-- Enters the node that spells the sequences into the list of different nodes, and gives back
its place there; no byte left is place zero. Sequences are at most `fuel` bytes long. -/
def enter (fuel : Nat) (nodes : List Node) (l : List (List (Nat × Nat))) : Nat × List Node :=
  match fuel with
  | 0 => (0, nodes)
  | fuel + 1 =>
    match gather l with
    | [] => (0, nodes)
    | gs =>
      let (node, nodes) := enterAll fuel nodes gs
      match nodes.findIdx? (· = node) with
      | some i => (nodes.length - i, nodes)
      | none => (nodes.length + 1, node :: nodes)

def enterAll (fuel : Nat) (nodes : List Node) :
    List ((Nat × Nat) × List (List (Nat × Nat))) → Node × List Node
  | [] => ([], nodes)
  | (b, rs) :: gs =>
    let (i, nodes) := enter fuel nodes rs
    let (node, nodes) := enterAll fuel nodes gs
    ((b, i) :: node, nodes)

end

/-- The length of the common start of two sequences. -/
def shared : List (Nat × Nat) → List (Nat × Nat) → Nat
  | a :: l, b :: m => if a = b then shared l m + 1 else 0
  | _, _ => 0

/-- The number of different nonempty starts of sequences, of which those with a common start
are neighbours. -/
def starts (before : List (Nat × Nat)) : List (List (Nat × Nat)) → Nat
  | [] => 0
  | l :: ls => l.length - shared before l + starts l ls

/-- A set of other than one character. A set beyond ASCII becomes a tree of byte ranges: forward
with equal ends shared, backward with equal starts shared. -/
def set (forward : Bool) (s : CharSet) : Nat :=
  if s.isAscii then state + choice s.ranges.length
  else
    let seqs := setSequences s
    if forward then
      let (_, nodes) := enter 5 [] seqs
      nodes.foldl (fun total n => total + choice n.length) state
    else state + fork seqs.length + state * starts [] seqs

/-- A node of a tree of words: its edges in order, with an end where a word ends. Edges behind an
end are tried after it, so that words keep their order. -/
inductive Trie where
  | nil
  | edge (byte : Nat) (child next : Trie)
  | stop (next : Trie)

namespace Trie

def hasStop : Trie → Bool
  | nil => false
  | edge _ _ next => next.hasStop
  | stop _ => true

def hasEdge : Trie → Bool
  | nil => false
  | edge _ _ _ => true
  | stop next => next.hasEdge

/-- Ends a word at the node, unless it has nothing but an end already. -/
def close (t : Trie) : Trie :=
  if t.hasStop && !t.hasEdge then t else go t
where
  go : Trie → Trie
    | nil => stop nil
    | edge b child next => edge b child (go next)
    | stop next => stop (go next)

/-- Changes the child behind an edge, which is looked for after the last end. -/
def follow (byte : Nat) (change : Trie → Trie) : Trie → Trie
  | nil => edge byte (change nil) nil
  | stop next => stop (next.follow byte change)
  | edge b child next =>
    if next.hasStop then edge b child (next.follow byte change)
    else if byte < b then edge byte (change nil) (edge b child next)
    else if byte = b then edge b (change child) next
    else edge b child (next.follow byte change)

def insert : List Nat → Trie → Trie
  | [], t => t.close
  | b :: w, t => t.follow b (insert w)

/-- The room of the rest of a node, `edges` of its edges since the last end and `targets` of its
ways being counted. -/
def room (edges targets : Nat) : Trie → Nat
  | nil => finish edges + fork (targets + min edges 1)
  | stop next => finish edges + next.room 0 (targets + min edges 1 + 1)
  | edge _ child next => (if child.hasEdge then child.room 0 0 else 0) + next.room (edges + 1) targets
where
  finish (edges : Nat) : Nat :=
    if edges = 0 then 0 else if edges = 1 then state else choice edges

end Trie

/-- The bytes of an expression that is a word. -/
def word? (forward : Bool) (e : Expr) : Option (List Nat) := do
  let cs ← e.items.mapM (·.literal?)
  let bytes := cs.flatMap fun c => utf8Bytes c.toNat
  guard !bytes.isEmpty
  return if forward then bytes else bytes.reverse

/-- The number and the room of the branches, `inner` being the rest of an alternative; what is no
alternative is one branch. -/
def measure (forward inner : Bool) : Expr → Nat × Nat
  | .empty | .look _ => (1, state)
  | .chars s => (1, match s.only? with
    | some c => state * (utf8Bytes c.toNat).length
    | none => set forward s)
  | .group _ _ e => (1, (if forward then 2 * state else 0) + (measure forward false e).2)
  | .seq e f => (1, (measure forward false e).2 + (measure forward false f).2)
  | .alt e f =>
    let (n, room) := measure forward true f
    let (n, room) := (n + 1, (measure forward false e).2 + room)
    if inner then (n, room)
    else (1, match (e :: f.branches).mapM (word? forward) with
      | some ws => state + (ws.foldl (fun t w => t.insert w) Trie.nil).room 0 0
      | none => fork n + state + room)
  | .repeat min max _ e =>
    let body := (measure forward false e).2
    (1, match max with
      | some max =>
        if min = 0 ∧ max = 1 then fork 2 + state + body
        else if min = max then min * body
        else (if min = 0 then state else min * body) + state + (max - min) * (fork 2 + body)
      | none =>
        if min ≠ 0 then min * body + fork 2
        else if e.advances then fork 2 + body
        else 2 * fork 2 + state + body)

/-- The room of an automaton: its states for the ends of the match, and the expression. -/
def total (forward : Bool) (e : Expr) : Nat :=
  (if forward then 4 else 2) * state + (measure forward false e).2

end Footprint

/-- Neither automaton of the expression is too large. -/
def Expr.fits (e : Expr) : Bool :=
  Footprint.total true e ≤ Footprint.limit && Footprint.total false e ≤ Footprint.limit

end DeclRules.Pattern

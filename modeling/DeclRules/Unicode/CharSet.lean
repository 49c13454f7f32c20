/-! Sets of characters as lists of inclusive code point ranges. Every operation returns ranges
that are sorted, disjoint, not adjacent and free of surrogates, so that equal sets have equal
ranges. -/

namespace DeclRules.Unicode

structure CharSet where
  ranges : List (Nat × Nat)
deriving DecidableEq, Inhabited

/-- The value of hexadecimal digits, other characters ignored. -/
def hexDigit? (c : Char) : Option Nat :=
  if '0' ≤ c && c ≤ '9' then some (c.toNat - '0'.toNat)
  else if 'a' ≤ c && c ≤ 'f' then some (c.toNat - 'a'.toNat + 10)
  else if 'A' ≤ c && c ≤ 'F' then some (c.toNat - 'A'.toNat + 10)
  else none

def hexValue (s : String) : Nat :=
  s.toList.foldl (fun n c => match hexDigit? c with | some d => 16 * n + d | none => n) 0

namespace CharSet

/-- The part of a range below the surrogates, and the part above them. -/
def clip (r : Nat × Nat) : List (Nat × Nat) :=
  let hi := min r.2 0x10FFFF
  (if r.1 ≤ min hi 0xD7FF then [(r.1, min hi 0xD7FF)] else []) ++
    (if max r.1 0xE000 ≤ hi then [(max r.1 0xE000, hi)] else [])

/-- Joins ranges that overlap or touch, in a list sorted by lower end. -/
def join : List (Nat × Nat) → List (Nat × Nat)
  | [] => []
  | r :: rs => go r.1 r.2 rs
where
  go (lo hi : Nat) : List (Nat × Nat) → List (Nat × Nat)
    | [] => [(lo, hi)]
    | r :: rs => if r.1 ≤ hi + 1 then go lo (max hi r.2) rs else (lo, hi) :: go r.1 r.2 rs

/-- The set of the characters in the given ranges, in any order. -/
def ofRanges (rs : List (Nat × Nat)) : CharSet :=
  ⟨join ((rs.flatMap clip).mergeSort fun a b => a.1 ≤ b.1)⟩

def empty : CharSet := ⟨[]⟩

def all : CharSet := ⟨[(0, 0xD7FF), (0xE000, 0x10FFFF)]⟩

def range (lo hi : Nat) : CharSet := ⟨clip (lo, hi)⟩

def singleton (c : Char) : CharSet := ⟨[(c.toNat, c.toNat)]⟩

def ofList (cs : List Char) : CharSet := ofRanges (cs.map fun c => (c.toNat, c.toNat))

/-- Ranges written as hexadecimal code points, `a-b` or `a`, with blanks between them. -/
def ofHex (s : String) : CharSet :=
  let flush (lo : Option Nat) (n : Option Nat) (rs : List (Nat × Nat)) : List (Nat × Nat) :=
    match n with
    | none => rs
    | some hi => (lo.getD hi, hi) :: rs
  let (lo, n, rs) := s.foldl (fun (lo, n, rs) c =>
    match hexDigit? c with
    | some d => (lo, some (16 * n.getD 0 + d), rs)
    | none => if c == '-' then (n, none, rs) else (none, none, flush lo n rs))
    ((none, none, []) : Option Nat × Option Nat × List (Nat × Nat))
  ofRanges (flush lo n rs).reverse

def containsCode (s : CharSet) (n : Nat) : Bool :=
  go s.ranges
where
  go : List (Nat × Nat) → Bool
    | [] => false
    | r :: rs => if n < r.1 then false else n ≤ r.2 || go rs

def contains (s : CharSet) (c : Char) : Bool := s.containsCode c.toNat

def isEmpty (s : CharSet) : Bool := s.ranges.isEmpty

def union (s t : CharSet) : CharSet := ofRanges (s.ranges ++ t.ranges)

def unions (l : List CharSet) : CharSet := ofRanges (l.flatMap (·.ranges))

/-- The ranges between the given ones, from `lo` on. -/
def gaps (lo : Nat) : List (Nat × Nat) → List (Nat × Nat)
  | [] => [(lo, 0x10FFFF)]
  | r :: rs => if lo < r.1 then (lo, r.1 - 1) :: gaps (r.2 + 1) rs else gaps (r.2 + 1) rs

def compl (s : CharSet) : CharSet := ofRanges (gaps 0 s.ranges)

def inter (s t : CharSet) : CharSet := (s.compl.union t.compl).compl

def diff (s t : CharSet) : CharSet := (s.compl.union t).compl

def symmDiff (s t : CharSet) : CharSet := (s.diff t).union (t.diff s)

/-- The only member of a set of one character. -/
def only? (s : CharSet) : Option Char :=
  match s.ranges with
  | [(a, b)] => if a = b then some (Char.ofNat a) else none
  | _ => none

/-- No member beyond ASCII. -/
def isAscii (s : CharSet) : Bool := s.ranges.all (·.2 ≤ 0x7F)

end CharSet

end DeclRules.Unicode

/-! File systems as far as loading and reading see them: paths, what can go wrong with them, and
the bytes that there are to read. A view of a file system answers for all paths, be it one that
knows no more than what was found out about some of them. -/

namespace DeclRules

abbrev Path := String

namespace Path

/-- The directory that a path with a slash stands in. -/
def parent (p : Path) : Path :=
  match (p.toList.reverse.dropWhile (· ≠ '/')).drop 1 with
  | [] => "/"
  | cs => String.ofList cs.reverse

def isAbsolute (p : Path) : Bool := p.toList.head? == some '/'

/-- A path as seen from a directory. -/
def join (directory p : Path) : Path :=
  if isAbsolute p then p
  else if directory.toList.getLast? == some '/' then directory ++ p
  else directory ++ "/" ++ p

end Path

/-- Why a path cannot be followed, or a file not be opened or read. -/
inductive Fault where
  | missing
  | notADirectory
  | isADirectory
  | nameTooLong
  | nulInName
  | notUtf8
  /-- Anything else, in the words of the system. -/
  | other (text : String)
deriving DecidableEq

def Fault.message : Fault → String
  | missing => "No such file or directory (os error 2)"
  | notADirectory => "Not a directory (os error 20)"
  | isADirectory => "Is a directory (os error 21)"
  | nameTooLong => "File name too long (os error 36)"
  | nulInName => "file name contained an unexpected NUL byte"
  | notUtf8 => "stream did not contain valid UTF-8"
  | other text => text

abbrev Bytes := List UInt8

namespace Bytes

/-- The text of bytes that are valid UTF-8. -/
def text? (b : Bytes) : Option String := String.fromUTF8? ⟨b.toArray⟩

/-- A line with its last byte dropped if that is a carriage return; the line is given in reverse,
as it is gathered. -/
def endLine : Bytes → Bytes
  | 0x0D :: l => l.reverse
  | l => l.reverse

/-- Gathers lines, the one begun and the ones done in reverse. -/
def gatherLines (line : Bytes) (done : List Bytes) : Bytes → List Bytes
  | [] => if line.isEmpty then done.reverse else (line.reverse :: done).reverse
  | b :: bs =>
    if b = 0x0A then gatherLines [] (endLine line :: done) bs else gatherLines (b :: line) done bs

/-- The lines of bytes, without their ends; an end at the very end opens no further line. -/
def lines (b : Bytes) : List Bytes := gatherLines [] [] b

/-- The bytes up to the last line feed. -/
def complete (b : Bytes) : Bytes := (b.reverse.dropWhile (· ≠ 0x0A)).reverse

end Bytes

/-- What there is to read: bytes, and the fault that keeps what is behind them from being read. -/
structure Input where
  bytes : Bytes
  fault : Option Fault := none

namespace Input

instance : Coe Bytes Input where
  coe bytes := { bytes }

/-- All that there is to read. -/
def all (i : Input) : Except Fault Bytes :=
  match i.fault with
  | none => .ok i.bytes
  | some fault => .error fault

/-- What can be read line by line: of a line in which reading fails nothing is seen. -/
def readable (i : Input) : Bytes := if i.fault.isSome then i.bytes.complete else i.bytes

end Input

/-- What is known of a file system, which is finite. -/
structure FileView where
  /-- The one spelling of what a path leads to. -/
  canonical : Path → Except Fault Path
  /-- What there is to read behind a canonical path, if it can be opened. -/
  opened : Path → Except Fault Input
  /-- All that paths can lead to. -/
  places : List Path
  mem_places : ∀ {p c : Path}, canonical p = .ok c → c ∈ places

namespace FileView

/-- What the file of a canonical path holds. -/
def bytes (v : FileView) (c : Path) : Except Fault Bytes := do (← v.opened c).all

def text (v : FileView) (c : Path) : Except Fault String := do
  match (← v.bytes c).text? with
  | some s => return s
  | none => throw .notUtf8

end FileView

/-- What was found out about some paths. -/
structure Snapshot where
  /-- Where the paths lead. -/
  paths : List (Path × Except Fault Path) := []
  /-- What there is to read in the files that could be opened, by canonical path. -/
  contents : List (Path × Except Fault Input) := []

namespace Snapshot

/-- A path that was not looked at leads nowhere. -/
def canonical (s : Snapshot) (p : Path) : Except Fault Path :=
  (s.paths.lookup p).getD (.error .missing)

def places (s : Snapshot) : List Path := s.paths.filterMap fun e => e.2.toOption

theorem mem_places_of_canonical {s : Snapshot} {p c : Path} (h : s.canonical p = .ok c) :
    c ∈ s.places := by
  unfold canonical at h
  cases hl : s.paths.lookup p with
  | none => simp [hl] at h
  | some r =>
    obtain ⟨l, m, he, -⟩ := List.lookup_eq_some_iff.mp hl
    simp only [hl, Option.getD_some] at h
    exact List.mem_filterMap.mpr ⟨(p, r), by simp [he], by simp [h, Except.toOption]⟩

def view (s : Snapshot) : FileView where
  canonical := s.canonical
  opened c := (s.contents.lookup c).getD (.error .missing)
  places := s.places
  mem_places := mem_places_of_canonical

end Snapshot

end DeclRules

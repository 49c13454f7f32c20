import DeclRules.Files.View

/-! Files and directories below one directory, the top. Outside of it nothing is known but that
there are directories. -/

namespace DeclRules

structure FileTree where
  /-- The path of the top. -/
  top : Path
  /-- What stands below, by the names that lead to it: the bytes of a file, or a directory. -/
  entries : List (List String × Option Bytes)

namespace FileTree

/-- A directory or file, or some directory above the top. -/
inductive Position where
  | outside
  | inside (names : List String)
deriving DecidableEq

def Position.path (top : Path) : Position → Path
  | outside => "/"
  | inside names => String.join (top :: names.map ("/" ++ ·))

/-- What stands at a position: the bytes of a file, or a directory. -/
def at? (t : FileTree) : Position → Option (Option Bytes)
  | .outside | .inside [] => some none
  | .inside names => t.entries.lookup names

def Position.up : Position → Position
  | outside | inside [] => outside
  | inside names => inside names.dropLast

/-- The greatest number of bytes of a name. -/
def maxName : Nat := 255

/-- Follows the names of a path. Whatever has a further name behind it must be a directory, also
if that name is empty. -/
def follow (t : FileTree) : List String → Position → Except Fault Position
  | [], p => if (t.at? p).isSome then .ok p else .error .missing
  | name :: names, p =>
    match t.at? p with
    | none => .error .missing
    | some (some _) => .error .notADirectory
    | some none =>
      if name = "" ∨ name = "." then follow t names p
      else if name = ".." then follow t names p.up
      else if maxName < name.utf8ByteSize then .error .nameTooLong
      else match p with
        | .outside => .error .missing
        | .inside above => follow t names (.inside (above ++ [name]))

/-- The position where a path starts and the names from there on. Paths are taken from the top
unless they are absolute. -/
def start (t : FileTree) (p : Path) : Position × List String :=
  match t.top.toList.isPrefixOf? p.toList with
  | some [] => (.inside [], [])
  | some ('/' :: r) => (.inside [], (String.ofList r).splitOn "/")
  | _ => (if Path.isAbsolute p then .outside else .inside [], p.splitOn "/")

/-- The position that a path leads to. -/
def find (t : FileTree) (p : Path) : Except Fault Position :=
  if p = "" then .error .missing
  else if p.toList.contains '\x00' then .error .nulInName
  else
    let (position, names) := t.start p
    t.follow names position

/-- All positions. -/
def positions (t : FileTree) : List Position :=
  [.outside, .inside []] ++ t.entries.map fun e => .inside e.1

/-- What there is to read behind a canonical path. A directory can be opened, but not be read. -/
def opened (t : FileTree) (c : Path) : Except Fault Input :=
  match (t.positions.find? fun p => p.path t.top = c).bind t.at? with
  | some (some bytes) => .ok bytes
  | some none => .ok { bytes := [], fault := some .isADirectory }
  | none => .error .missing

theorem mem_positions_of_at? {t : FileTree} {p : Position} (h : (t.at? p).isSome) :
    p ∈ t.positions := by
  unfold at? at h
  unfold positions
  split at h
  · simp
  · simp
  · rename_i names _
    obtain ⟨b, hb⟩ := Option.isSome_iff_exists.mp h
    obtain ⟨l, m, he, -⟩ := List.lookup_eq_some_iff.mp hb
    simp only [List.mem_append, List.mem_map]
    exact .inr ⟨(names, b), by simp [he], rfl⟩

theorem at?_of_follow {t : FileTree} {names : List String} {p q : Position}
    (h : t.follow names p = .ok q) : (t.at? q).isSome := by
  induction names generalizing p with
  | nil =>
    unfold follow at h
    split at h
    · cases h
      assumption
    · contradiction
  | cons name names ih =>
    unfold follow at h
    repeat' split at h
    all_goals first | contradiction | exact ih h

theorem mem_positions_of_find {t : FileTree} {p : Path} {q : Position} (h : t.find p = .ok q) :
    q ∈ t.positions := by
  unfold find at h
  repeat' split at h
  all_goals first | contradiction | exact mem_positions_of_at? (at?_of_follow h)

/-- The files of a tree; a path that names no file is not among them. -/
def view (t : FileTree) : FileView where
  canonical p := (t.find p).map (·.path t.top)
  opened := t.opened
  places := t.positions.map (·.path t.top)
  mem_places {p c} h := by
    cases hq : t.find p with
    | error e => simp [hq, Except.map] at h
    | ok q =>
      simp only [hq, Except.map, Except.ok.injEq] at h
      exact List.mem_map.mpr ⟨q, mem_positions_of_find hq, h⟩

/-- The names on the way to something, from the top on. -/
def namesOf (p : Path) : List String := (p.splitOn "/").filter fun n => n ≠ "" ∧ n ≠ "."

/-- Writes a file, with the directories on the way to it. -/
def write (t : FileTree) (p : Path) (content : Bytes) : FileTree :=
  let names := namesOf p
  let parents := (List.range names.length).tail.map fun n => names.take n
  let missing := parents.filter fun d => (t.entries.lookup d).isNone
  { t with entries :=
      (names, some content) :: (missing.map (·, none) ++ t.entries.filter (·.1 ≠ names)) }

/-- Removes a file. -/
def remove (t : FileTree) (p : Path) : FileTree :=
  { t with entries := t.entries.filter (·.1 ≠ namesOf p) }

end FileTree

end DeclRules

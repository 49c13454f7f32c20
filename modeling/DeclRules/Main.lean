import DeclRules.Command.Run
import DeclRules.Files.View

/-! The program: it looks at the files that a command line asks for, and answers it. -/

open DeclRules

/-- The fault behind an error of the system. -/
def faultOf : IO.Error → Fault
  | .noFileOrDirectory .. => .missing
  | .inappropriateType .. => .notADirectory
  | e => .other (toString e)

def attempt {α : Type} (act : IO α) : IO (Except Fault α) := do
  match ← act.toBaseIO with
  | .ok a => return .ok a
  | .error e => return .error (faultOf e)

/-- Reads up to the end, or to a fault. -/
partial def drain (s : IO.FS.Stream) (bytes : ByteArray) : IO Input := do
  match ← attempt (s.read 65536) with
  | .error fault => return { bytes := bytes.toList, fault := some fault }
  | .ok more => if more.isEmpty then return { bytes := bytes.toList } else drain s (bytes ++ more)

/-- What there is to read behind a canonical path. -/
def contentOf (c : Path) : IO (Except Fault Input) := do
  let real ← IO.FS.realPath c
  if ← real.isDir then return .ok { bytes := [], fault := some .isADirectory }
  attempt do drain (.ofHandle (← IO.FS.Handle.mk real .read)) .empty

/-- The files that one extends, if it is a rule file. -/
def referencesOf (s : Snapshot) (c : Path) : List Path :=
  match RuleFile.load s.view c with
  | .ok f => f.references c
  | .error _ => []

/-- Looks at paths, and at those that the rule files among them refer to. -/
partial def look (s : Snapshot) : List Path → IO Snapshot
  | [] => return s
  | p :: ps => do
    if (s.paths.lookup p).isSome then look s ps
    else
      let real ← attempt do return (← IO.FS.realPath p).toString
      let s := { s with paths := (p, real) :: s.paths }
      match real with
      | .error _ => look s ps
      | .ok c =>
        if (s.contents.lookup c).isSome then look s ps
        else
          let s := { s with contents := (c, ← contentOf c) :: s.contents }
          look s (referencesOf s c ++ ps)

/-- The paths that a task starts from. -/
def pathsOf : Command.Task → List Path
  | .apply rules input .. => if input = "-" then [rules] else [rules, input]
  | .check rules | .list rules .. => [rules]

def worldFor (words : List String) : IO Command.World := do
  let output ← IO.getStdout
  let terminal ← output.isTty
  match Command.parse words with
  | .error _ => return { files := Snapshot.view {}, input := { bytes := [] }, terminal }
  | .ok i =>
    let s ← look {} (pathsOf i.task)
    let input ← match i.task with
      | .apply _ "-" .. => do drain (← IO.getStdin) .empty
      | _ => pure { bytes := [] }
    return { files := s.view, input, terminal }

def main (words : List String) : IO UInt32 := do
  let reply := Command.respond (← worldFor words) words
  (← IO.getStdout).putStr reply.output
  match reply.failure with
  | some f => IO.eprintln ("Error: " ++ f.message)
  | none => if reply.exitCode ≠ 0 then IO.eprintln "usage: apply | check | list, each with --rules FILE"
  return reply.exitCode.toUInt32

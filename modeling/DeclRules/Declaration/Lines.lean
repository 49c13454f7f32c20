import DeclRules.Declaration.Record
import DeclRules.Files.View

/-! Declarations as lines of JSON. Blank lines hold nothing, but count. -/

namespace DeclRules

open Json

/-- The first line that holds no declaration, counted from one. -/
structure MalformedLine where
  line : Nat
  complaint : Complaint
deriving DecidableEq

def MalformedLine.message (e : MalformedLine) : String :=
  "Invalid declaration on line " ++ toString e.line ++ ": " ++ e.complaint.message "<json>"

/-- Why there are no declarations in what was opened. -/
inductive InputError where
  | malformed (e : MalformedLine)
  | unreadable (fault : Fault)
deriving DecidableEq

def InputError.message : InputError → String
  | malformed e => e.message
  | unreadable fault => "I/O error: " ++ fault.message

namespace Declaration

/-- The declaration of a line, with its signature in canonical spelling; none on a blank line. -/
def readLine (line : Bytes) : Decoded (Option Declaration) :=
  match line.text? with
  | none => .error .notUtf8
  | some s =>
    if s.toList.all Text.isBlank then .ok none
    else (decodeText decode s).map fun d => some d.normalize

/-- As `readLine`, for the line of a given number. -/
def readNumbered (numbered : Bytes × Nat) : Except MalformedLine (Option Declaration) :=
  (readLine numbered.1).mapError fun complaint => ⟨numbered.2, complaint⟩

/-- The declarations of lines. -/
def readLines (input : Bytes) : Except MalformedLine (List Declaration) := do
  return (← (input.lines.zipIdx 1).mapM readNumbered).filterMap id

/-- The declarations of an input. A malformed line is met before a fault behind it. -/
def readInput (input : Input) : Except InputError (List Declaration) := do
  let ds ← (readLines input.readable).mapError .malformed
  match input.fault with
  | none => return ds
  | some fault => throw (.unreadable fault)

end Declaration

end DeclRules

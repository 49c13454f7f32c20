import DeclRules.Command.Args
import DeclRules.Loader
import DeclRules.Pass.Run
import DeclRules.Report.Human
import DeclRules.Report.Jsonl

/-! Carrying out a command line. Nothing is put out before all has succeeded. -/

namespace DeclRules

/-- The exit code of the program. -/
def Failure.exitCode : Failure → Nat
  | config (.unreachable ..) | config (.unreadable _) => 2
  | config _ => 3
  | action _ => 4
  | input _ | unopened _ => 2

namespace Command

/-- What a command can see. -/
structure World where
  files : FileView
  /-- What there is to read in standard input. -/
  input : Input
  /-- Whether standard output is a terminal. -/
  terminal : Bool := false

def version : String := "bindrules 0.1.0"

def World.colours (w : World) : Colours → Bool
  | .auto => w.terminal
  | .always => true
  | .never => false

/-- The compiled ruleset of a file. -/
def World.rules (w : World) (path : Path) : Except ConfigError Compiled := do
  (← Loader.loadFresh w.files path).compile

/-- What there is to read in an input file, or in standard input. -/
def World.opened (w : World) (path : Path) : Except Fault Input :=
  if path = "-" then .ok w.input else do w.files.opened (← w.files.canonical path)

/-- The declarations of an input file, or of standard input. -/
def World.declarations (w : World) (path : Path) : Except Failure (List Declaration) := do
  (Declaration.readInput (← (w.opened path).mapError .unopened)).mapError .input

/-- What `check` says of a ruleset that compiles. -/
def description (c : Compiled) : List String :=
  ["Ruleset " ++ c.name.text ++ " is valid"]
    ++ (c.description.map ("  Description: " ++ ·)).toList
    ++ ["  Lineage: " ++ " -> ".intercalate (c.lineage.map (·.text))]
    ++ c.databases.toList fun k db => "  " ++ k.text ++ ": " ++ toString db.size ++ " rules"

/-- A pass over declarations, with the compiled ruleset after it. -/
def pass (parallel : Bool) (c : Compiled) (ds : List Declaration) :
    Except Failure (List Item) × Compiled :=
  if parallel then Pass.runScheduled ds (.alternating _) c else Pass.run ds c

/-- The output of a pass. -/
def passReport (format : Format) (colours reportUnused hideUnmatched : Bool) (items : List Item)
    (c : Compiled) : String :=
  match format with
  | .human =>
    Report.renderLines colours (Report.human (!hideUnmatched) items
      ++ if reportUnused then [] :: Report.humanRules "Unused rules" c.unused else [])
  | .jsonl =>
    Report.joinLines (Report.jsonLines items
      ++ if reportUnused then Report.jsonRuleLines "unused_rule" c.unused else [])

/-- The rules of one kind, or of all. -/
def rulesOf (c : Compiled) : Option Kind → List Usage
  | some k => (c.database k).usage
  | none => c.usage

/-- The output of a task. -/
def perform (w : World) (i : Invocation) : Except Failure String := do
  match i.task with
  | .apply rules input format parallel reportUnused hideUnmatched =>
    let c ← (w.rules rules).mapError .config
    let ds ← w.declarations input
    let (items, c) := pass parallel c ds
    return passReport format (w.colours i.colours) reportUnused hideUnmatched (← items) c
  | .check rules =>
    let c ← (w.rules rules).mapError .config
    return Report.joinLines (description c)
  | .list rules kind format =>
    let c ← (w.rules rules).mapError .config
    return match format with
    | .human => Report.renderLines (w.colours i.colours)
        (Report.humanRules ("Rules of " ++ c.name.text) (rulesOf c kind))
    | .jsonl => Report.joinLines (Report.jsonRuleLines "rule" (rulesOf c kind))

/-- What the program leaves behind. -/
structure Reply where
  exitCode : Nat
  output : String := ""
  failure : Option Failure := none

/-- The answer to a command line. -/
def respond (w : World) (words : List String) : Reply :=
  match parse words with
  | .error .help => { exitCode := 0 }
  | .error .version => { exitCode := 0, output := version ++ "\n" }
  | .error .misuse => { exitCode := 2 }
  | .ok i =>
    match perform w i with
    | .ok output => { exitCode := 0, output }
    | .error f => { exitCode := f.exitCode, failure := some f }

end Command

end DeclRules

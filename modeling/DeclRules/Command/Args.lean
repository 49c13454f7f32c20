import DeclRules.Declaration.Kind
import DeclRules.Files.View

/-! The command line. Options may stand before and behind the name of a command, as far as they
belong to all commands; whatever has a value takes it from the same word or from the next one. -/

namespace DeclRules.Command

inductive Format where
  | human
  | jsonl
deriving DecidableEq

inductive Colours where
  | auto
  | always
  | never
deriving DecidableEq

inductive Task where
  | apply (rules : Path) (input : Path) (format : Format)
      (parallel reportUnused hideUnmatched : Bool)
  | check (rules : Path)
  | list (rules : Path) (kind : Option Kind) (format : Format)

structure Invocation where
  task : Task
  colours : Colours

/-- Why there is nothing to do. -/
inductive Stop where
  | help
  | version
  | misuse
deriving DecidableEq

inductive Verb where
  | apply
  | check
  | list
deriving DecidableEq

/-- Options with a value. -/
inductive Slot where
  | colours
  | rules
  | format
  | kind
deriving DecidableEq

/-- Options without a value. -/
inductive Switch where
  | verbose
  | parallel
  | reportUnused
  | hideUnmatched
deriving DecidableEq

def Verb.ofName? : String → Option Verb
  | "apply" => some apply
  | "check" => some check
  | "list" => some list
  | _ => none

def Format.ofName? : String → Option Format
  | "human" => some human
  | "jsonl" => some jsonl
  | _ => none

def Colours.ofName? : String → Option Colours
  | "auto" => some auto
  | "always" => some always
  | "never" => some never
  | _ => none

/-- The kind of a name on the command line. -/
def kindOfName? : String → Option Kind
  | "function" => some .function
  | "container" => some .container
  | "typedef" => some .typedef
  | "forward-declaration" => some .forwardDeclaration
  | _ => none

namespace Slot

def long : List (String × Slot) :=
  [("color", colours), ("rules", rules), ("format", format), ("kind", kind)]

def short : List (Char × Slot) := [('r', rules), ('f', format), ('k', kind)]

/-- Whether a command has the option; there is none before the command is named. -/
def fits (verb : Option Verb) : Slot → Bool
  | colours => true
  | rules => verb.isSome
  | format => verb == some .apply || verb == some .list
  | kind => verb == some .list

def accepts (value : String) : Slot → Bool
  | colours => (Colours.ofName? value).isSome
  | rules => !value.isEmpty
  | format => (Format.ofName? value).isSome
  | kind => (kindOfName? value).isSome

end Slot

namespace Switch

def long : List (String × Switch) :=
  [("verbose", verbose), ("parallel", parallel), ("report-unused", reportUnused),
    ("hide-unmatched", hideUnmatched)]

def short : List (Char × Switch) := [('v', verbose)]

def fits (verb : Option Verb) : Switch → Bool
  | verbose => true
  | _ => verb == some .apply

end Switch

/-- The options and the input met so far. -/
structure Given where
  values : List (Slot × String) := []
  switches : List Switch := []
  input : Option Path := none

namespace Given

def put (slot : Slot) (value : String) (g : Given) : Except Stop Given :=
  if (g.values.lookup slot).isSome || !slot.accepts value then .error .misuse
  else .ok { g with values := (slot, value) :: g.values }

def turnOn (s : Switch) (g : Given) : Except Stop Given :=
  if s ∈ g.switches then .error .misuse else .ok { g with switches := s :: g.switches }

/-- Takes a word that is no option. -/
def putInput (verb : Option Verb) (word : String) (g : Given) : Except Stop Given :=
  if verb = some .apply ∧ g.input.isNone then .ok { g with input := some word }
  else .error .misuse

end Given

/-- A word of the command line by its shape. -/
inductive Shape where
  | plain
  /-- Two hyphens, behind which nothing is an option. -/
  | divider
  | long (name : String) (value : Option String)
  | short (letters : List Char)

def shape (word : String) : Shape :=
  match word.toList with
  | ['-'] => .plain
  | ['-', '-'] => .divider
  | '-' :: '-' :: cs =>
    match cs.span (· != '=') with
    | (name, []) => .long (String.ofList name) none
    | (name, _ :: value) => .long (String.ofList name) (some (String.ofList value))
  | '-' :: cs => .short cs
  | _ => .plain

/-- Takes options by their letters; the last of them may want the next word as its value. -/
def takeLetters (verb : Option Verb) (g : Given) : List Char → Except Stop (Given × Option Slot)
  | [] => .ok (g, none)
  | c :: cs =>
    if c = 'h' then .error .help
    else if c = 'V' ∧ verb = none then .error .version
    else match Switch.short.lookup c, Slot.short.lookup c with
      | some s, _ =>
        if s.fits verb then do takeLetters verb (← g.turnOn s) cs else .error .misuse
      | none, some slot =>
        if !slot.fits verb then .error .misuse
        else match cs with
          | [] => .ok (g, some slot)
          | '=' :: value => do return (← g.put slot (String.ofList value), none)
          | value => do return (← g.put slot (String.ofList value), none)
      | none, none => .error .misuse

/-- Takes an option by its name. -/
def takeNamed (verb : Option Verb) (g : Given) (name : String) (value : Option String) :
    Except Stop (Given × Option Slot) :=
  match Slot.long.lookup name, Switch.long.lookup name, value with
  | some slot, _, value =>
    if !slot.fits verb then .error .misuse
    else match value with
      | some value => do return (← g.put slot value, none)
      | none => .ok (g, some slot)
  | none, some s, none =>
    if s.fits verb then do return (← g.turnOn s, none) else .error .misuse
  | none, none, none =>
    if name = "help" then .error .help
    else if name = "version" ∧ verb = none then .error .version
    else .error .misuse
  | none, _, some _ => .error .misuse

/-- What is left to do where a word names a command: the command and the words behind its name. -/
abbrev Rest := Option (Verb × List String)

/-- A call for help may name one command. -/
def helpOn : List String → Stop
  | [] => .help
  | [word] => if word = "help" ∨ (Verb.ofName? word).isSome then .help else .misuse
  | _ => .misuse

/-- Takes words up to the name of a command. `pending` is an option that wants the next word. -/
def takeWords (verb : Option Verb) (pending : Option Slot) (g : Given) :
    List String → Except Stop (Given × Rest)
  | [] => if pending.isSome then .error .misuse else .ok (g, none)
  | word :: words =>
    match pending, shape word with
    | some slot, .plain => do takeWords verb none (← g.put slot word) words
    | some _, _ => .error .misuse
    | none, .plain =>
      match verb, Verb.ofName? word with
      | none, some v => .ok (g, some (v, words))
      | none, none => .error (if word = "help" then helpOn words else .misuse)
      | some _, _ => do takeWords verb none (← g.putInput verb word) words
    | none, .divider => do return (← words.foldlM (fun g w => g.putInput verb w) g, none)
    | none, .long name value => do
      let (g, pending) ← takeNamed verb g name value
      takeWords verb pending g words
    | none, .short letters => do
      let (g, pending) ← takeLetters verb g letters
      takeWords verb pending g words

/-- The task of a command with its options. -/
def Given.task (g : Given) (verb : Verb) : Except Stop Task := do
  let some rules := g.values.lookup .rules | throw .misuse
  let format := ((g.values.lookup .format).bind Format.ofName?).getD .human
  return match verb with
  | .apply => .apply rules (g.input.getD "-") format (.parallel ∈ g.switches)
      (.reportUnused ∈ g.switches) (.hideUnmatched ∈ g.switches)
  | .check => .check rules
  | .list => .list rules ((g.values.lookup .kind).bind kindOfName?) format

/-- What the words of a command line ask for. Of two choices of colours, that behind the name of
the command counts. -/
def parse (words : List String) : Except Stop Invocation := do
  let (outer, rest) ← takeWords none none {} words
  let some (verb, words) := rest | throw .misuse
  let (g, _) ← takeWords (some verb) none {} words
  let task ← g.task verb
  let colours := (g.values.lookup .colours).or (outer.values.lookup .colours)
  return { task, colours := (colours.bind Colours.ofName?).getD .auto }

end DeclRules.Command

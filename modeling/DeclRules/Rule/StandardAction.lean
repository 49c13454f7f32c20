import DeclRules.Rule.Basic

/-! The actions that rule files can name. -/

namespace DeclRules

open Json

inductive StandardAction where
  | discard
  /-- Empties the list of base classes. -/
  | discardBase
  /-- Says that the declaration is defined elsewhere. -/
  | markExternal
  /-- Says that the declaration has no instances of its own. -/
  | markAbstract
  /-- Changes nothing, but keeps later rules from being tried. -/
  | noop
  /-- Replaces the declared text by an expanded template. -/
  | rewriteDecl (template : String)
  /-- Replaces the result type by an expanded template. -/
  | rewriteResult (template : String)
  /-- Adds a mark to the annotations, unless it is there. -/
  | annotate (mark : String)
  | remove (key : String)
  | set (key : String) (value : Value)

namespace StandardAction

/-- The edited form; `discard` edits nothing. -/
def edit (c : Context) (f : Form) : StandardAction → Except Form.NotAList Form
  | discard | noop => .ok f
  | discardBase => .ok (f.insert Form.baseSpecifiers (.array []))
  | markExternal => f.pushUnique Form.annotations "External"
  | markAbstract => f.pushUnique Form.annotations "Abstract"
  | rewriteDecl template => .ok (f.insert Form.decl (.string (c.expand template)))
  | rewriteResult template => .ok (f.insert Form.result (.string (c.expand template)))
  | annotate mark => f.pushUnique Form.annotations mark
  | remove key => .ok (f.erase key)
  | set key value => .ok (f.insert key value)

def label : StandardAction → String
  | discard => "discard"
  | discardBase => "discard_base"
  | markExternal => "annotate(External)"
  | markAbstract => "annotate(Abstract)"
  | noop => "noop"
  | rewriteDecl template => "rewrite_decl(" ++ template ++ ")"
  | rewriteResult template => "rewrite_result(" ++ template ++ ")"
  | annotate mark => "annotate(" ++ mark ++ ")"
  | remove key => "remove(" ++ key ++ ")"
  | set key _ => "set(" ++ key ++ ")"

def transform (a : StandardAction) : Transform where
  label := a.label
  edit _ _ c := fun f =>
    match a.edit c f with
    | .ok g => .ok () g
    | .error e => .error e.message f

def action : StandardAction → Action
  | discard => .discard
  | a => .rewrite a.transform

end StandardAction

end DeclRules

import DeclRules.Loader
import Mathlib

/-! # Rule files with a head in short form

A head in short form is a list with the name, the files that are extended and the description, each
without its key. A file with a short head is read as its name, the rest of its head and its rules
(`RuleFile.decode_short`). What a text of TOML is read as can be found by evaluation, as
values are compared in a decidable way (`Toml.Value.same_iff`), and so it can be told what the
file that holds the text says (`RuleFile.load_eq_ok`). -/

namespace DeclRules

namespace Toml.Value

mutual

/-- The two are the same value. -/
def same : Value → Value → Bool
  | string s, string t => s == t
  | int m, int n => m == n
  | real x, real y => decide (x = y)
  | bool a, bool b => a == b
  | datetime d, datetime e => decide (d = e)
  | array l, array m => sameItems l m
  | table l, table m => sameMembers l m
  | _, _ => false

def sameItems : List Value → List Value → Bool
  | [], [] => true
  | v :: l, w :: m => same v w && sameItems l m
  | _, _ => false

def sameMembers : List (String × Value) → List (String × Value) → Bool
  | [], [] => true
  | (k, v) :: l, (k', w) :: m => k == k' && same v w && sameMembers l m
  | _, _ => false

end

mutual

theorem same_iff (v w : Value) : v.same w = true ↔ v = w := by
  cases v <;> cases w <;> simp [same]
  case array l m => exact sameItems_iff l m
  case table l m => exact sameMembers_iff l m

theorem sameItems_iff (l m : List Value) : sameItems l m = true ↔ l = m := by
  cases l <;> cases m <;> simp [sameItems]
  case cons v l w m => rw [same_iff v w, sameItems_iff l m]

theorem sameMembers_iff (l m : List (String × Value)) : sameMembers l m = true ↔ l = m := by
  cases l <;> cases m <;> simp [sameMembers, Prod.ext_iff]
  case cons v l w m => rw [same_iff v.2 w.2, sameMembers_iff l m]

end

instance : DecidableEq Value := fun v w => decidable_of_iff _ (same_iff v w)

end Toml.Value

theorem RulesetName.parse_text (n : RulesetName) : parse n.text = .ok n := by
  simp [parse, ofString?, n.valid]

namespace RuleFile

variable {v : FileView} {c : Path} {text : String} {items : List Toml.Value}
  {members rest : List (String × Toml.Value)} {f : RuleFile} {rows : List (Kind × List Row)}

/-- What the file says about the ruleset itself. -/
def head (f : RuleFile) : Head where
  name := some f.name
  parents := f.parents
  description := f.description

theorem headOfItems_cons (name : RulesetName) (items : List Toml.Value) :
    headOfItems (.string name.text :: items) =
      (headMembers.tail.zip items).foldlM headMember { name := some name } := by
  have hname : headMember {} ("name", .string name.text) = .ok { name := some name } := by
    simp [headMember, Toml.Value.toText, name.parse_text, bind, Except.bind, pure, Except.pure]
  simp only [headOfItems, headMembers, List.zip_cons_cons, List.foldlM_cons, hname]
  rfl

/-- A file is read if behind its name the rest of the head and the rules are. -/
theorem decode_short
    (hhead : (headMembers.tail.zip items).foldlM headMember { name := some f.name } = .ok f.head)
    (hrest : rest.foldlM fileMember (some f.head, []) = .ok (some f.head, rows))
    (hrows : ∀ k, (rows.lookup k).getD [] = f.rows k) :
    decode (("ruleset", .array (.string f.name.text :: items)) :: rest) = .ok f := by
  have hruleset : Kind.named.lookup "ruleset" = none := by decide
  have hfirst : fileMember (none, []) ("ruleset", .array (.string f.name.text :: items)) =
      .ok (some f.head, []) := by
    simp only [fileMember, hruleset, decodeHead, headOfItems_cons, hhead]
    rfl
  simp only [decode, List.foldlM_cons, hfirst, bind, Except.bind, hrest, hrows]
  rfl

theorem load_eq_ok (htext : v.text c = .ok text) (hread : Toml.read text = some members)
    (hdecode : decode members = .ok f) : load v c = .ok f := by
  simp only [load, parse, htext, Except.mapError, bind, Except.bind, hread, hdecode]

end RuleFile

end DeclRules

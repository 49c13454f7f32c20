import DeclRules.Files.View
import DeclRules.RuleFile.Decode

/-! Loading rulesets from files. The files that a file extends are loaded before it, and what has
been loaded is kept, so that a file is read once however often it is extended. Files that extend
each other in a circle are refused. -/

namespace DeclRules

/-- The rulesets loaded so far, by the canonical paths of their files. -/
abbrev Cache := List (Path × Ruleset)

namespace RuleFile

/-- What the file of a canonical path says. -/
def load (v : FileView) (c : Path) : Except ConfigError RuleFile := do
  parse c (← (v.text c).mapError .unreadable)

/-- The paths of the files that are extended, seen from the directory of the file itself. -/
def references (f : RuleFile) (c : Path) : List Path := f.parents.map (Path.join (Path.parent c))

end RuleFile

namespace Loader

/-- The places that are not being loaded. -/
def free (v : FileView) (stack : List Path) : List Path := v.places.filter (· ∉ stack)

theorem length_free_cons {v : FileView} {stack : List Path} {c : Path} (hc : c ∈ v.places)
    (hs : c ∉ stack) : (free v (c :: stack)).length < (free v stack).length := by
  unfold free
  have h : ∀ l : List Path, (l.filter (· ∉ c :: stack)) = (l.filter (· ∉ stack)).filter (· ≠ c) := by
    intro l
    rw [List.filter_filter]
    congr 1
    funext x
    simp [not_or]
  rw [h]
  exact List.length_filter_lt_length_iff_exists.mpr
    ⟨c, List.mem_filter.mpr ⟨hc, by simpa using hs⟩, by simp⟩

/-- The way back to a file that is being loaded, from its first mention to this one. -/
def circle (stack : List Path) (c : Path) : List Path :=
  c :: ((stack.takeWhile (· ≠ c)).reverse ++ [c])

mutual

/-- Loads the file that a path leads to. The files on the stack, the last of them first, are being
loaded. -/
def load (v : FileView) (stack : List Path) (p : Path) (cache : Cache) :
    Except ConfigError Ruleset × Cache :=
  match _hc : v.canonical p with
  | .error fault => (.error (.unreachable p fault), cache)
  | .ok c =>
    if _hs : c ∈ stack then (.error (.cycle (circle stack c)), cache)
    else match cache.lookup c with
      | some r => (.ok r, cache)
      | none =>
        match RuleFile.load v c with
        | .error e => (.error e, cache)
        | .ok f =>
          match loadAll v (c :: stack) (f.references c) cache with
          | (.error e, cache) => (.error e, cache)
          | (.ok parents, cache) =>
            match f.toRuleset parents with
            | .error e => (.error e, cache)
            | .ok r => (.ok r, (c, r) :: cache)
termination_by ((free v stack).length, 0)
decreasing_by exact .left _ _ (length_free_cons (v.mem_places _hc) _hs)

/-- Loads one file after the other. -/
def loadAll (v : FileView) (stack : List Path) (ps : List Path) (cache : Cache) :
    Except ConfigError (List Ruleset) × Cache :=
  match ps with
  | [] => (.ok [], cache)
  | p :: ps =>
    match load v stack p cache with
    | (.error e, cache) => (.error e, cache)
    | (.ok r, cache) =>
      match loadAll v stack ps cache with
      | (.error e, cache) => (.error e, cache)
      | (.ok rs, cache) => (.ok (r :: rs), cache)
termination_by ((free v stack).length, ps.length + 1)
decreasing_by all_goals exact .right _ (by simp)

end

/-- Loads with nothing kept from before. -/
def loadFresh (v : FileView) (p : Path) : Except ConfigError Ruleset := (load v [] p []).1

end Loader

end DeclRules

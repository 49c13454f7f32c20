import DeclRules.Proofs.Text.Lines

/-! # Line feeds of a text

A text that is made by ending each of some lines with a line feed is taken apart into these lines
again if and only if none of them has a line feed itself (`Text.hasLines_ended_iff`): each line feed
of a text ends a line. -/

namespace DeclRules.Text

/-- The number of line feeds in a text. -/
def feeds (s : String) : Nat := s.toList.count '\n'

@[simp] theorem feeds_append (s t : String) : feeds (s ++ t) = feeds s + feeds t := by
  simp [feeds]

theorem feeds_of_plain {s : String} (h : Plain s.toList) : feeds s = 0 :=
  List.count_eq_zero.mpr fun hmem => absurd (h '\n' hmem) (by decide)

theorem feeds_intercalate {sep : String} (hsep : feeds sep = 0) (ls : List String) :
    feeds (sep.intercalate ls) = (ls.map feeds).sum := by
  induction ls with
  | nil => rfl
  | cons l ls ih =>
    cases ls with
    | nil => simp
    | cons l' ls =>
      rw [String.intercalate_cons_cons, feeds_append, feeds_append, ih, hsep, Nat.add_zero]
      rfl

/-- The text is these lines and nothing else, each of them ended with a line feed. -/
def HasLines (s : String) (ls : List String) : Prop :=
  s.toList.splitOn '\n' = ls.map String.toList ++ [[]]

/-- Lines, each of them with its end. -/
def ended (ls : List String) : String := String.join (ls.map (· ++ "\n"))

theorem ended_cons (l : String) (ls : List String) : ended (l :: ls) = l ++ "\n" ++ ended ls := by
  rw [ended, List.map_cons, String.join_cons]
  rfl

theorem feeds_ended (ls : List String) : feeds (ended ls) = ls.length + (ls.map feeds).sum := by
  induction ls with
  | nil => rfl
  | cons l ls ih =>
    have hend : feeds "\n" = 1 := rfl
    rw [ended_cons, feeds_append, feeds_append, ih, hend, List.map_cons, List.sum_cons,
      List.length_cons]
    omega

theorem length_splitOn (s : List Char) : (s.splitOn '\n').length = s.count '\n' + 1 := by
  induction s with
  | nil => rfl
  | cons c s ih =>
    rw [List.splitOn_cons_eq_if_modifyHead, List.count_cons]
    split
    · rw [List.length_cons, ih]
    · rw [List.length_modifyHead, ih]

/-- The lines of a text are those that it is made of if and only if these have no line feeds. -/
theorem hasLines_ended_iff {ls : List String} :
    HasLines (ended ls) ls ↔ (ls.map feeds).sum = 0 := by
  constructor
  · intro h
    have hlength := congrArg List.length h
    rw [length_splitOn, List.length_append, List.length_map, List.length_singleton] at hlength
    have hfeeds := feeds_ended ls
    rw [feeds] at hfeeds
    omega
  · intro h
    induction ls with
    | nil => rfl
    | cons l ls ih =>
      rw [List.map_cons, List.sum_cons, Nat.add_eq_zero_iff] at h
      have hcons : (ended (l :: ls)).toList = l.toList ++ '\n' :: (ended ls).toList := by
        simp [ended_cons]
      rw [HasLines, hcons, List.splitOn_append_cons_self_of_not_mem (List.count_eq_zero.mp h.1),
        ih h.2]
      rfl

end DeclRules.Text

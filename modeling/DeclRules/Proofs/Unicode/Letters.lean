import DeclRules.Proofs.Text.Lines
import DeclRules.Proofs.Unicode.CharSet
import DeclRules.Rule.Basic

/-! # Letters and digits

No letter or digit comes before the digits of ASCII (`Unicode.le_of_isAlphanumeric`), since no range
of the tables they are taken from starts before them. Names of rulesets are therefore text without
control characters (`RulesetName.plain_text`). -/

namespace DeclRules

namespace Unicode

namespace CharSet

/-- The range of which the ends were read is done. -/
def closeRange (lo hi : Option Nat) (rs : List (Nat × Nat)) : List (Nat × Nat) :=
  match hi with
  | none => rs
  | some hi => (lo.getD hi, hi) :: rs

/-- Reads a character. The last number of the range that is being read comes second, the one before
it first, and then the ranges that are done. -/
def hexStep : Option Nat × Option Nat × List (Nat × Nat) → Char →
    Option Nat × Option Nat × List (Nat × Nat)
  | (lo, hi, rs), c =>
    match hexDigit? c with
    | some d => (lo, some (16 * hi.getD 0 + d), rs)
    | none => if c == '-' then (hi, none, rs) else (none, none, closeRange lo hi rs)

/-- The ranges that a text adds to those that are done, the last one first. -/
def hexRanges (cs : List Char) (lo hi : Option Nat) (rs : List (Nat × Nat)) : List (Nat × Nat) :=
  match cs.foldl hexStep (lo, hi, rs) with
  | (lo, hi, rs) => closeRange lo hi rs

theorem ofHex_ofList (cs : List Char) :
    ofHex (String.ofList cs) = ofRanges (hexRanges cs none none []).reverse := by
  rw [ofHex, String.foldl_eq_foldl_toList, String.toList_ofList]
  rfl

/-- No range that a text adds starts before the code point. This computes without the ranges. -/
def hexFrom (n : Nat) : List Char → Option Nat → Option Nat → Bool
  | [], lo, hi => (closeRange lo hi []).all (n ≤ ·.1)
  | c :: cs, lo, hi =>
    match hexDigit? c with
    | some d => hexFrom n cs lo (some (16 * hi.getD 0 + d))
    | none =>
      if c == '-' then hexFrom n cs hi none
      else (closeRange lo hi []).all (n ≤ ·.1) && hexFrom n cs none none

theorem all_closeRange (n : Nat) (lo hi : Option Nat) (rs : List (Nat × Nat)) :
    (closeRange lo hi rs).all (n ≤ ·.1) =
      ((closeRange lo hi []).all (n ≤ ·.1) && rs.all (n ≤ ·.1)) := by
  have happend : closeRange lo hi rs = closeRange lo hi [] ++ rs := by cases hi <;> rfl
  rw [happend, List.all_append]

theorem all_hexRanges (n : Nat) (cs : List Char) (lo hi : Option Nat) (rs : List (Nat × Nat)) :
    (hexRanges cs lo hi rs).all (n ≤ ·.1) = (hexFrom n cs lo hi && rs.all (n ≤ ·.1)) := by
  induction cs generalizing lo hi rs with
  | nil => exact all_closeRange n lo hi rs
  | cons c cs ih =>
    unfold hexRanges at ih ⊢
    rw [List.foldl_cons, hexStep, hexFrom]
    cases hexDigit? c with
    | some d => exact ih ..
    | none =>
      dsimp only
      by_cases hc : (c == '-') = true
      · rw [if_pos hc, if_pos hc]
        exact ih ..
      · rw [if_neg hc, if_neg hc, ih, all_closeRange, ← Bool.and_assoc, Bool.and_comm (hexFrom ..)]

/-- No member of the set comes before the code point. -/
structure From (n : Nat) (s : CharSet) : Prop where
  proper : s.Proper
  le : ∀ c, s.contains c = true → n ≤ c.toNat

variable {n : Nat}

theorem from_ofHex {cs : List Char} (h : hexFrom n cs none none = true) :
    (ofHex (String.ofList cs)).From n := by
  refine ⟨proper_ofHex _, fun c hc => ?_⟩
  rw [ofHex_ofList, contains_ofRanges] at hc
  obtain ⟨r, hr, hlo, -⟩ := hc
  have hall : (hexRanges cs none none []).all (n ≤ ·.1) = true := by
    rw [all_hexRanges, h]
    rfl
  exact (of_decide_eq_true (List.all_eq_true.mp hall r (List.mem_reverse.mp hr))).trans hlo

theorem from_unions {l : List CharSet} (h : ∀ s ∈ l, s.From n) : (unions l).From n := by
  refine ⟨proper_unions l, fun c hc => ?_⟩
  obtain ⟨s, hs, hc⟩ := (contains_unions fun s hs => (h s hs).proper).mp hc
  exact (h s hs).le c hc

theorem from_union {s t : CharSet} (hs : s.From n) (ht : t.From n) : (s.union t).From n := by
  have heq : s.union t = unions [s, t] := by simp [union, unions]
  rw [heq]
  exact from_unions (List.forall_mem_cons.mpr ⟨hs, List.forall_mem_singleton.mpr ht⟩)

end CharSet

open CharSet

-- the tables in these proofs are read as lists of some thousand characters, hence the depth

set_option maxRecDepth 40000 in
theorem from_lowercase : Property.lowercase.From 0x30 := by
  apply from_union
  all_goals
    apply from_ofHex
    decide +kernel

set_option maxRecDepth 40000 in
theorem from_uppercase : Property.uppercase.From 0x30 := by
  apply from_union
  all_goals
    apply from_ofHex
    decide +kernel

set_option maxRecDepth 40000 in
theorem from_alphabetic : Property.alphabetic.From 0x30 := by
  apply from_unions
  intro s hs
  simp only [List.mem_cons, List.not_mem_nil, or_false] at hs
  rcases hs with rfl | rfl | rfl | rfl | rfl | rfl | rfl
  · exact from_lowercase
  · exact from_uppercase
  all_goals
    apply from_ofHex
    decide +kernel

set_option maxRecDepth 40000 in
theorem from_number : Category.number.From 0x30 := by
  apply from_unions
  intro s hs
  simp only [List.mem_cons, List.not_mem_nil, or_false] at hs
  rcases hs with rfl | rfl | rfl
  all_goals
    apply from_ofHex
    decide +kernel

/-- The first of the letters and digits is a digit of ASCII. -/
theorem le_of_isAlphanumeric {c : Char} (h : isAlphanumeric c = true) : 0x30 ≤ c.toNat := by
  rcases Bool.or_eq_true _ _ ▸ h with h | h
  · exact from_alphabetic.le c h
  · exact from_number.le c h

end Unicode

theorem RulesetName.plain_text (n : RulesetName) : Plain n.text.toList := by
  intro c hc
  have hvalid := n.valid
  simp only [isRulesetName, isNameChar, Bool.and_eq_true, List.all_eq_true, Bool.or_eq_true,
    beq_iff_eq] at hvalid
  rcases hvalid.2 c hc with ((h | rfl) | rfl) | rfl
  · exact (by decide : 0x20 ≤ 0x30).trans (Unicode.le_of_isAlphanumeric h)
  all_goals decide

end DeclRules

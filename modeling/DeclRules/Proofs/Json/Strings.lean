import DeclRules.Json.Document
import DeclRules.Json.Printer
import Mathlib

/-! # String literals

The grammar of string literals comes in two parts: what stands between the quotation marks spells
pieces (`Document.Spells`), and pieces join to characters, a pair of surrogates to one
(`Document.Joins`). The reader takes exactly what is spelled so (`Document.readPieces_of_spells`,
`Document.exists_spells_of_readPieces`, `Document.joinPieces_eq_some_iff`), and every text is
spelled as it is printed (`Document.exists_spells_flatMap_escape`). -/

namespace DeclRules.Json.Document

/-- What stands between quotation marks, and the pieces that it spells. -/
inductive Spells : List Char → List Piece → Prop
  | nil : Spells [] []
  /-- Only quotation marks, backslashes and control characters cannot stand for themselves. -/
  | char {c : Char} {s : List Char} {l : List Piece} (hquote : c ≠ '"') (hbackslash : c ≠ '\\')
    (hprinted : 0x20 ≤ c.toNat) (h : Spells s l) : Spells (c :: s) (.char c :: l)
  | escape {c c' : Char} {s : List Char} {l : List Piece} (hc : simpleEscape? c = some c')
    (h : Spells s l) : Spells ('\\' :: c :: s) (.char c' :: l)
  | unit {a b c d : Char} {u : Nat} {s : List Char} {l : List Piece} (hu : unit? a b c d = some u)
    (h : Spells s l) : Spells ('\\' :: 'u' :: a :: b :: c :: d :: s) (.unit u :: l)

/-- The code unit is the first half of a surrogate pair. -/
abbrev IsHigh (u : Nat) : Prop := 0xD800 ≤ u ∧ u ≤ 0xDBFF

/-- The code unit is the second half of a surrogate pair. -/
abbrev IsLow (u : Nat) : Prop := 0xDC00 ≤ u ∧ u ≤ 0xDFFF

/-- The characters that pieces join to. -/
inductive Joins : List Piece → List Char → Prop
  | nil : Joins [] []
  | char {c : Char} {l : List Piece} {s : List Char} (h : Joins l s) : Joins (.char c :: l) (c :: s)
  | unit {u : Nat} {l : List Piece} {s : List Char} (hhigh : ¬ IsHigh u) (hlow : ¬ IsLow u)
    (h : Joins l s) : Joins (.unit u :: l) (Char.ofNat u :: s)
  | pair {u v : Nat} {l : List Piece} {s : List Char} (hhigh : IsHigh u) (hlow : IsLow v)
    (h : Joins l s) : Joins (.unit u :: .unit v :: l)
      (Char.ofNat (0x10000 + (u - 0xD800) * 0x400 + (v - 0xDC00)) :: s)

section Pieces

theorem readPieces_plain {c : Char} (hquote : c ≠ '"') (hbackslash : c ≠ '\\')
    (hprinted : 0x20 ≤ c.toNat) (r : List Char) :
    readPieces (c :: r) = (readPieces r).map fun w => (.char c :: w.1, w.2) := by
  rw [readPieces.eq_5 _ _ (by simpa) (by simp [hbackslash]) (by simp [hbackslash]), guard,
    if_pos hprinted]
  cases readPieces r <;> rfl

theorem readPieces_simple {c c' : Char} (h : simpleEscape? c = some c') (r : List Char) :
    readPieces ('\\' :: c :: r) = (readPieces r).map fun w => (.char c' :: w.1, w.2) := by
  have hu : c ≠ 'u' := by
    rintro rfl
    simp [simpleEscape?] at h
  rw [readPieces.eq_4 _ _ (by simp [hu]), h]
  cases readPieces r <;> rfl

theorem readPieces_unit {a b c d : Char} {u : Nat} (h : unit? a b c d = some u) (r : List Char) :
    readPieces ('\\' :: 'u' :: a :: b :: c :: d :: r) =
      (readPieces r).map fun w => (.unit u :: w.1, w.2) := by
  rw [readPieces.eq_3, h]
  cases readPieces r <;> rfl

theorem readPieces_of_spells {s : List Char} {l : List Piece} (h : Spells s l) (r : List Char) :
    readPieces (s ++ '"' :: r) = some (l, r) := by
  induction h with
  | nil => rfl
  | char hquote hbackslash hprinted _ ih =>
    rw [List.cons_append, readPieces_plain hquote hbackslash hprinted, ih]
    rfl
  | escape hc _ ih =>
    simp only [List.cons_append]
    rw [readPieces_simple hc, ih]
    rfl
  | unit hu _ ih =>
    simp only [List.cons_append]
    rw [readPieces_unit hu, ih]
    rfl

theorem exists_spells_of_readPieces {s r : List Char} {l : List Piece}
    (h : readPieces s = some (l, r)) : ∃ t, s = t ++ '"' :: r ∧ Spells t l := by
  induction s using readPieces.induct generalizing l with
  | case1 => cases h
  | case2 r =>
    cases h
    exact ⟨[], rfl, .nil⟩
  | case3 a b c d s ih =>
    rw [readPieces.eq_3] at h
    obtain ⟨u, hu, h⟩ := Option.bind_eq_some_iff.mp h
    obtain ⟨⟨l', r'⟩, hl, h⟩ := Option.bind_eq_some_iff.mp h
    cases h
    obtain ⟨t, rfl, ht⟩ := ih hl
    exact ⟨_, rfl, .unit hu ht⟩
  | case4 c s hu ih =>
    rw [readPieces.eq_4 _ _ hu] at h
    obtain ⟨c', hc, h⟩ := Option.bind_eq_some_iff.mp h
    obtain ⟨⟨l', r'⟩, hl, h⟩ := Option.bind_eq_some_iff.mp h
    cases h
    obtain ⟨t, rfl, ht⟩ := ih hl
    exact ⟨_, rfl, .escape hc ht⟩
  | case5 c s hquote hu hescape ih =>
    rw [readPieces.eq_5 _ _ hquote hu hescape] at h
    obtain ⟨_, hguard, h⟩ := Option.bind_eq_some_iff.mp h
    have hprinted : 0x20 ≤ c.toNat := (Option.guard_eq_some' _).mp hguard
    obtain ⟨⟨l', r'⟩, hl, h⟩ := Option.bind_eq_some_iff.mp h
    cases h
    obtain ⟨t, rfl, ht⟩ := ih hl
    -- a backslash would have to stand at the end of the text
    have hbackslash : c ≠ '\\' := by
      rintro rfl
      cases t with
      | nil => exact hescape '"' r rfl rfl
      | cons c t => exact hescape c (t ++ '"' :: r) rfl rfl
    exact ⟨_, rfl, .char hquote hbackslash hprinted ht⟩

end Pieces

section Join

theorem joinPieces_eq_some_of_joins {l : List Piece} {s : List Char} (h : Joins l s) :
    joinPieces none l = some s := by
  induction h with
  | nil => rfl
  | char _ ih => simp [joinPieces, ih]
  | unit hhigh hlow _ ih =>
    rw [joinPieces, if_neg hhigh, if_neg hlow, ih]
    rfl
  | pair hhigh hlow _ ih =>
    rw [joinPieces, if_pos hhigh, joinPieces, if_pos hlow, ih]
    rfl

/-- A first half that waits stands in front of the pieces. -/
theorem joins_of_joinPieces {l : List Piece} {s : List Char} {high : Option Nat}
    (hhigh : ∀ u ∈ high, IsHigh u) (h : joinPieces high l = some s) :
    Joins ((high.map .unit).toList ++ l) s := by
  induction l generalizing high s with
  | nil =>
    cases high with
    | none =>
      cases h
      exact .nil
    | some u => cases h
  | cons p l ih =>
    cases p with
    | char c =>
      cases high with
      | none =>
        obtain ⟨s, hs, rfl⟩ := Option.map_eq_some_iff.mp h
        exact .char (ih (by simp) hs)
      | some u => cases h
    | unit u =>
      cases high with
      | none =>
        rw [joinPieces] at h
        split at h
        · rename_i hu
          have hwaits : ∀ v ∈ some u, IsHigh v := by simpa using hu
          exact ih hwaits h
        · split at h
          · cases h
          · rename_i hu hu'
            obtain ⟨s, hs, rfl⟩ := Option.map_eq_some_iff.mp h
            exact .unit hu hu' (ih (by simp) hs)
      | some v =>
        rw [joinPieces] at h
        split at h
        · rename_i hu
          obtain ⟨s, hs, rfl⟩ := Option.map_eq_some_iff.mp h
          exact .pair (hhigh v rfl) hu (ih (by simp) hs)
        · cases h

theorem joinPieces_eq_some_iff {l : List Piece} {s : List Char} :
    joinPieces none l = some s ↔ Joins l s :=
  ⟨joins_of_joinPieces (by simp), joinPieces_eq_some_of_joins⟩

end Join

section Print

theorem Spells.append {s t : List Char} {l m : List Piece} (h : Spells s l) (h' : Spells t m) :
    Spells (s ++ t) (l ++ m) := by
  induction h with
  | nil => exact h'
  | char hquote hbackslash hprinted _ ih => exact .char hquote hbackslash hprinted ih
  | escape hc _ ih => exact .escape hc ih
  | unit hu _ ih => exact .unit hu ih

theorem hexDigit?_hexDigit : ∀ n < 16, Unicode.hexDigit? (hexDigit n) = some n := by decide

/-- An escaped character is one piece, and stands for the character. -/
theorem exists_spells_escape (c : Char) : ∃ p, Spells (escape c) [p] ∧
    ∀ l s, Joins l s → Joins (p :: l) (c :: s) := by
  unfold escape
  split
  case h_8 hquote hbackslash _ _ _ _ _ =>
    split
    · rename_i hcontrol
      have hunit : unit? '0' '0' (hexDigit (c.toNat / 16)) (hexDigit (c.toNat % 16)) =
          some c.toNat := by
        have hzero : Unicode.hexDigit? '0' = some 0 := by decide
        simp [unit?, hzero, hexDigit?_hexDigit _ (Nat.mod_lt c.toNat (by decide)),
          hexDigit?_hexDigit (c.toNat / 16) (by omega), Nat.div_add_mod']
      refine ⟨.unit c.toNat, .unit hunit .nil, fun l s h => ?_⟩
      have hjoins : Joins (.unit c.toNat :: l) (Char.ofNat c.toNat :: s) :=
        .unit (by omega) (by omega) h
      rwa [Char.ofNat_toNat] at hjoins
    · rename_i hprinted
      exact ⟨.char c, .char hquote hbackslash (Nat.le_of_not_lt hprinted) .nil, fun _ _ => .char⟩
  all_goals exact ⟨.char _, .escape rfl .nil, fun _ _ => .char⟩

theorem exists_spells_flatMap_escape (s : List Char) :
    ∃ l, Spells (s.flatMap escape) l ∧ Joins l s := by
  induction s with
  | nil => exact ⟨[], .nil, .nil⟩
  | cons c s ih =>
    obtain ⟨l, hspells, hjoins⟩ := ih
    obtain ⟨p, hp, hc⟩ := exists_spells_escape c
    exact ⟨p :: l, hp.append hspells, hc l s hjoins⟩

end Print

end DeclRules.Json.Document

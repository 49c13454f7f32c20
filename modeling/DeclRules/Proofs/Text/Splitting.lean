import DeclRules.Proofs.Text.FirstPlace

/-! # Bytes split into lines

`Bytes.Splits` says what the lines of bytes are: a line ends at each line feed, less a carriage
return before it, and what stands behind the last line feed is a line as it is. Bytes split in one
way (`Bytes.splits_iff`). Behind further bytes and a line feed the lines of bytes stay the same, and
the line feed does no more to the lines before it than to end the last of them
(`Bytes.Splits.followed`). Of an input that a fault cuts short, only the lines are read that are
ended before (`Input.splits_iff`). -/

namespace DeclRules.Bytes

variable {a b l : Bytes} {ls ls' : List Bytes}

theorem dropReturn_eq_self_or (l : Bytes) : dropReturn l = l ∨ l = dropReturn l ++ [0x0D] := by
  by_cases h : l.getLast? = some 0x0D
  · obtain ⟨l, rfl⟩ := List.getLast?_eq_some_iff.mp h
    exact .inr (by rw [dropReturn_concat])
  · exact .inl (if_neg h)

/-- The bytes split into the lines. -/
inductive Splits : Bytes → List Bytes → Prop
  | nil : Splits [] []
  /-- What no line feed ends is a line if it is not empty, and keeps a carriage return. -/
  | last {l : Bytes} (hne : l ≠ []) (h : 0x0A ∉ l) : Splits l [l]
  | line {l rest : Bytes} {ls : List Bytes} (h : 0x0A ∉ l) (hrest : Splits rest ls) :
    Splits (l ++ 0x0A :: rest) (dropReturn l :: ls)

theorem gatherLines_of_notMem (h : 0x0A ∉ l) (line : Bytes) :
    gatherLines line [] l = if (l.reverse ++ line).isEmpty then [] else [line.reverse ++ l] := by
  induction l generalizing line with
  | nil => simp [gatherLines]
  | cons c l ih =>
    obtain ⟨hc, hl⟩ := not_or.mp (mt List.mem_cons.mpr h)
    rw [gatherLines, if_neg (Ne.symm hc), ih hl]
    simp

theorem lines_of_notMem (hne : l ≠ []) (h : 0x0A ∉ l) : lines l = [l] := by
  rw [lines, gatherLines_of_notMem h]
  simp [hne]

theorem splits_lines (b : Bytes) : Splits b b.lines := by
  -- what is behind the first line feed is shorter
  induction hn : b.length using Nat.strong_induction_on generalizing b with
  | _ n ih =>
    by_cases h : 0x0A ∈ b
    · obtain ⟨l, rest, rfl, hl⟩ := List.eq_append_cons_of_mem h
      rw [lines_append_cons hl]
      exact .line hl (ih rest.length (by simp at hn; omega) rest rfl)
    · by_cases hne : b = []
      · exact hne ▸ .nil
      · rw [lines_of_notMem hne h]
        exact .last hne h

theorem Splits.lines_eq (h : Splits b ls) : b.lines = ls := by
  induction h with
  | nil => rfl
  | last hne h => exact lines_of_notMem hne h
  | line h _ ih => rw [lines_append_cons h, ih]

theorem splits_iff : Splits b ls ↔ ls = b.lines :=
  ⟨fun h => h.lines_eq.symm, fun h => h ▸ b.splits_lines⟩

/-- Lines before and after a line feed behind them: it ends a line that was open, and else it ends
an empty one. -/
inductive Ended : List Bytes → List Bytes → Prop
  | empty : Ended [] [[]]
  | last (l : Bytes) : Ended [l] [dropReturn l]
  | cons (l : Bytes) {ls ls' : List Bytes} (h : Ended ls ls') : Ended (l :: ls) (l :: ls')

/-- Bytes before a line feed split apart from those behind it. -/
theorem Splits.followed (h : Splits a ls) : ∃ ls', Ended ls ls' ∧
    ls'.length = a.count 0x0A + 1 ∧ ∀ b, lines (a ++ 0x0A :: b) = ls' ++ lines b := by
  induction h with
  | nil =>
    refine ⟨[[]], .empty, rfl, fun b => ?_⟩
    exact lines_append_cons (l := []) List.not_mem_nil b
  | @last l hne h =>
    refine ⟨[dropReturn l], .last l, ?_, fun b => lines_append_cons h b⟩
    rw [List.count_eq_zero_of_not_mem h]
    rfl
  | @line l rest ls h _ ih =>
    obtain ⟨ls', hended, hlength, hlines⟩ := ih
    refine ⟨dropReturn l :: ls', .cons _ hended, ?_, fun b => ?_⟩
    · rw [List.length_cons, hlength, List.count_append, List.count_eq_zero_of_not_mem h,
        List.count_cons_self, Nat.zero_add]
    · rw [List.append_assoc, List.cons_append, lines_append_cons h, hlines, List.cons_append]

theorem exists_eq_complete_append (b : Bytes) : ∃ rest, b = b.complete ++ rest ∧ 0x0A ∉ rest := by
  refine ⟨(b.reverse.takeWhile (· ≠ 0x0A)).reverse, ?_, fun h => ?_⟩
  · rw [complete, ← List.reverse_append, List.takeWhile_append_dropWhile, List.reverse_reverse]
  · simpa using List.mem_takeWhile_imp (List.mem_reverse.mp h)

theorem complete_ended (b : Bytes) : b.complete = [] ∨ b.complete.getLast? = some 0x0A := by
  rw [complete, List.getLast?_reverse, List.reverse_eq_nil_iff]
  cases h : b.reverse.dropWhile (· ≠ 0x0A) with
  | nil => exact .inl rfl
  | cons c l =>
    have hne : b.reverse.dropWhile (· ≠ 0x0A) ≠ [] := h ▸ List.cons_ne_nil c l
    have hc := List.head_dropWhile_not _ hne
    simp only [h, List.head_cons, decide_eq_false_iff_not, not_not] at hc
    exact .inr (congrArg some hc)

theorem complete_append (hb : b = [] ∨ b.getLast? = some 0x0A) (hl : 0x0A ∉ l) :
    complete (b ++ l) = b := by
  have hrest : ∀ c ∈ l.reverse, decide (c ≠ 0x0A) = true := fun c hc =>
    decide_eq_true (ne_of_mem_of_not_mem (List.mem_reverse.mp hc) hl)
  rw [complete, List.reverse_append, List.dropWhile_append_of_pos hrest]
  rcases hb with rfl | hb
  · rfl
  · obtain ⟨b, rfl⟩ := List.getLast?_eq_some_iff.mp hb
    simp

/-- Text ends with a carriage return if its bytes do. -/
theorem exists_of_ofText_eq_concat {s : String} (h : ofText s = l ++ [0x0D]) :
    ∃ t : String, s.toList = t.toList ++ ['\r'] ∧ ofText t = l := by
  rcases List.eq_nil_or_concat' s.toList with hs | ⟨cs, c, hs⟩
  · rw [ofText_eq_ofChars, hs] at h
    simp [ofChars] at h
  · have hchars : ofChars cs ++ String.utf8EncodeChar c = l ++ [0x0D] := by
      rw [ofText_eq_ofChars, hs, ofChars_append] at h
      simpa [ofChars] using h
    have hmem : 0x0D ∈ String.utf8EncodeChar c := by
      have hlast := congrArg List.getLast? hchars
      rw [List.getLast?_append_of_ne_nil _ String.utf8EncodeChar_ne_nil,
        List.getLast?_concat] at hlast
      exact List.mem_of_getLast? hlast
    -- a byte of ASCII encodes a character alone
    obtain hc | hc := eq_or_le_of_mem_utf8EncodeChar hmem
    · obtain rfl : c = '\r' := Char.toNat_inj.mp hc.symm
      exact ⟨String.ofList cs, by rw [hs, String.toList_ofList],
        (ofText_ofList cs).trans (List.append_cancel_right hchars)⟩
    · exact absurd hc (by decide)

end DeclRules.Bytes

namespace DeclRules.Input

/-- The lines that can be read of an input. -/
inductive Splits : Input → List Bytes → Prop
  | whole {b : Bytes} {ls : List Bytes} (h : b.Splits ls) : Splits { bytes := b } ls
  /-- The line in which reading stops is not among them. -/
  | broken {b rest : Bytes} {ls : List Bytes} {fault : Fault} (h : b.Splits ls)
    (hb : b = [] ∨ b.getLast? = some 0x0A) (hrest : 0x0A ∉ rest) :
    Splits { bytes := b ++ rest, fault := some fault } ls

theorem splits_iff {i : Input} {ls : List Bytes} : i.Splits ls ↔ ls = i.readable.lines := by
  constructor
  · intro h
    cases h with
    | whole h => exact Bytes.splits_iff.mp h
    | broken h hb hrest =>
      refine (Bytes.splits_iff.mp h).trans ?_
      exact congrArg Bytes.lines (Bytes.complete_append hb hrest).symm
  · rintro rfl
    obtain ⟨b, fault⟩ := i
    cases fault with
    | none => exact .whole b.splits_lines
    | some fault =>
      obtain ⟨rest, hb, hrest⟩ := b.exists_eq_complete_append
      have h : Splits ⟨b.complete ++ rest, some fault⟩ b.complete.lines :=
        .broken b.complete.splits_lines b.complete_ended hrest
      rwa [← hb] at h

end DeclRules.Input

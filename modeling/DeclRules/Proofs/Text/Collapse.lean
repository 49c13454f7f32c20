import DeclRules.Text.Blank
import Mathlib

/-! # Collapsed text

The words of a text are not empty and hold no blanks, and words written with single spaces between
them are found again (`words_unwords`), so that collapsing a collapsed text changes nothing
(`collapse_collapse`). -/

namespace DeclRules.Text

section Words

variable {c d : Char} {s : List Char}

theorem words_of_isBlank (h : isBlank c = true) : words (c :: s) = words s := by
  cases s <;> exact if_pos h

theorem words_singleton (h : isBlank c = false) : words [c] = [[c]] :=
  if_neg (Bool.eq_false_iff.mp h)

theorem words_cons_blank (hc : isBlank c = false) (hd : isBlank d = true) :
    words (c :: d :: s) = [c] :: words s :=
  (if_neg (Bool.eq_false_iff.mp hc)).trans (if_pos hd)

theorem words_cons_of_eq_cons {w : List Char} {ws : List (List Char)} (hc : isBlank c = false)
    (hd : isBlank d = false) (h : words (d :: s) = w :: ws) :
    words (c :: d :: s) = (c :: w) :: ws := by
  refine (if_neg (Bool.eq_false_iff.mp hc)).trans
    ((if_neg (Bool.eq_false_iff.mp hd)).trans ?_)
  rw [h]

theorem words_cons_of_eq_nil (hc : isBlank c = false) (hd : isBlank d = false)
    (h : words (d :: s) = []) : words (c :: d :: s) = [[c]] := by
  refine (if_neg (Bool.eq_false_iff.mp hc)).trans
    ((if_neg (Bool.eq_false_iff.mp hd)).trans ?_)
  rw [h]

end Words

/-- A text that can stand as a word. -/
def IsWord (w : List Char) : Prop := w ≠ [] ∧ ∀ c ∈ w, isBlank c = false

theorem isWord_singleton {c : Char} (h : isBlank c = false) : IsWord [c] := by
  simpa [IsWord] using h

theorem isWord_of_mem_words (s : List Char) : ∀ w ∈ words s, IsWord w := by
  induction s using words.induct with
  | case1 => exact fun w hw => absurd hw List.not_mem_nil
  | case2 c s hc ih => rwa [words_of_isBlank hc]
  | case3 c hc =>
    have hc := Bool.eq_false_iff.mpr hc
    rw [words_singleton hc]
    simpa using isWord_singleton hc
  | case4 c hc d s hd ih =>
    have hc := Bool.eq_false_iff.mpr hc
    rw [words_cons_blank hc hd]
    exact List.forall_mem_cons.mpr ⟨isWord_singleton hc, ih⟩
  | case5 c hc d s hd v vs hvs ih =>
    have hc := Bool.eq_false_iff.mpr hc
    rw [hvs] at ih
    rw [words_cons_of_eq_cons hc (Bool.eq_false_iff.mpr hd) hvs]
    obtain ⟨hv, hvs⟩ := List.forall_mem_cons.mp ih
    have hcv : IsWord (c :: v) :=
      ⟨List.cons_ne_nil _ _, List.forall_mem_cons.mpr ⟨hc, hv.2⟩⟩
    exact List.forall_mem_cons.mpr ⟨hcv, hvs⟩
  | case6 c hc d s hd hnil _ =>
    have hc := Bool.eq_false_iff.mpr hc
    rw [words_cons_of_eq_nil hc (Bool.eq_false_iff.mpr hd) hnil]
    simpa using isWord_singleton hc

/-- A word at the start of a text that goes on with a blank, or not at all. -/
theorem words_append {w s : List Char} (h : IsWord w)
    (hs : ∀ c, s.head? = some c → isBlank c = true) : words (w ++ s) = w :: words s := by
  obtain ⟨hne, hw⟩ := h
  induction w with
  | nil => exact absurd rfl hne
  | cons c w ih =>
    obtain ⟨hc, hw⟩ := List.forall_mem_cons.mp hw
    cases w with
    | nil =>
      cases s with
      | nil => exact words_singleton hc
      | cons d s =>
        have hd := hs d rfl
        rw [List.singleton_append, words_cons_blank hc hd, words_of_isBlank hd]
    | cons d w =>
      exact words_cons_of_eq_cons hc (hw d List.mem_cons_self) (ih (List.cons_ne_nil _ _) hw)

theorem words_unwords {ws : List (List Char)} (h : ∀ w ∈ ws, IsWord w) :
    words (unwords ws) = ws := by
  fun_induction unwords ws with
  | case1 => rfl
  | case2 w =>
    have hw := words_append (s := []) (h w List.mem_cons_self) (by simp)
    rwa [List.append_nil] at hw
  | case3 w v ws ih =>
    obtain ⟨hw, hws⟩ := List.forall_mem_cons.mp h
    have hspace : ∀ c, (' ' :: unwords (v :: ws)).head? = some c → isBlank c = true := by
      intro c hc
      cases hc
      rfl
    rw [words_append hw hspace, words_of_isBlank rfl, ih hws]

theorem collapse_collapse (s : String) : collapse (collapse s) = collapse s := by
  simp only [collapse, String.toList_ofList]
  rw [words_unwords (isWord_of_mem_words s.toList)]

end DeclRules.Text

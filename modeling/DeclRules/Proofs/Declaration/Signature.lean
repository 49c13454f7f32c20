import DeclRules.Proofs.Declaration.Lines
import DeclRules.Unicode.Property

/-! # Signatures in canonical spelling

`Text.HasWords` says which words a text has: the runs of characters between its blanks. Every text
has the words of one list (`Text.hasWords_iff`). Normalizing a declaration keeps the words of its
signature and writes them with single spaces between them and nothing else that is blank
(`Text.Collapsed`), so that signatures are spelt alike if and only if they have the same words. The
main statement is `Declaration.normalized`. -/

namespace DeclRules

namespace Text

variable {s w : List Char} {ws : List (List Char)}

/-- Blanks are the white space of Unicode. -/
theorem isBlank_eq (c : Char) : isBlank c = Unicode.Property.whiteSpace.contains c := by
  have hranges : Unicode.Property.whiteSpace.ranges = [(0x09, 0x0D), (0x20, 0x20), (0x85, 0x85),
      (0xA0, 0xA0), (0x1680, 0x1680), (0x2000, 0x200A), (0x2028, 0x2029), (0x202F, 0x202F),
      (0x205F, 0x205F), (0x3000, 0x3000)] := by cbv
  rw [Unicode.CharSet.contains, Unicode.CharSet.containsCode, hranges, isBlank, Bool.eq_iff_iff]
  simp [Unicode.CharSet.containsCode.go]
  omega

/-- The words of a text, in order. -/
inductive HasWords : List Char → List (List Char) → Prop
  | nil : HasWords [] []
  | blank {c : Char} {s : List Char} {ws : List (List Char)} (hc : isBlank c = true)
    (h : HasWords s ws) : HasWords (c :: s) ws
  /-- A word goes on to the next blank or to the end. -/
  | word {w s : List Char} {ws : List (List Char)} (hw : IsWord w)
    (hs : ∀ c, s.head? = some c → isBlank c = true) (h : HasWords s ws) :
    HasWords (w ++ s) (w :: ws)

theorem HasWords.words_eq (h : HasWords s ws) : words s = ws := by
  induction h with
  | nil => rfl
  | blank hc _ ih => rw [words_of_isBlank hc, ih]
  | word hw hs _ ih => rw [words_append hw hs, ih]

/-- One more character in front of the first word. -/
theorem HasWords.cons {c : Char} (hc : isBlank c = false)
    (hs : ∀ d, s.head? = some d → isBlank d = false) (h : HasWords s (w :: ws)) :
    HasWords (c :: s) ((c :: w) :: ws) := by
  cases h with
  | blank hd _ => cases hd.symm.trans (hs _ rfl)
  | word hw hrest h =>
    have hcw : IsWord (c :: w) := ⟨List.cons_ne_nil c w, List.forall_mem_cons.mpr ⟨hc, hw.2⟩⟩
    exact .word hcw hrest h

theorem hasWords_words (s : List Char) : HasWords s (words s) := by
  induction s using words.induct with
  | case1 => exact .nil
  | case2 c s hc ih =>
    rw [words_of_isBlank hc]
    exact .blank hc ih
  | case3 c hc =>
    have hc := Bool.eq_false_iff.mpr hc
    rw [words_singleton hc]
    exact .word (isWord_singleton hc) (by simp) .nil
  | case4 c hc d s hd ih =>
    have hc := Bool.eq_false_iff.mpr hc
    rw [words_cons_blank hc hd]
    refine .word (w := [c]) (isWord_singleton hc) (fun a ha => ?_) (.blank hd ih)
    cases ha
    exact hd
  | case5 c hc d s hd v vs hvs ih =>
    have hc := Bool.eq_false_iff.mpr hc
    have hd := Bool.eq_false_iff.mpr hd
    rw [hvs] at ih
    rw [words_cons_of_eq_cons hc hd hvs]
    refine ih.cons hc fun a ha => ?_
    cases ha
    exact hd
  | case6 c hc d s hd hnil ih =>
    -- a text that starts with no blank has a first word
    rw [hnil] at ih
    generalize htext : d :: s = text at ih
    cases ih with
    | nil => cases htext
    | blank hblank _ =>
      cases htext
      exact absurd hblank hd

theorem hasWords_iff : HasWords s ws ↔ ws = words s :=
  ⟨fun h => h.words_eq.symm, fun h => h ▸ hasWords_words s⟩

/-- All blanks are single spaces between characters that are not blank. -/
structure Collapsed (s : List Char) : Prop where
  head : ∀ c, s.head? = some c → isBlank c = false
  getLast : ∀ c, s.getLast? = some c → isBlank c = false
  space : ∀ c ∈ s, isBlank c = true → c = ' '
  single : s.IsChain fun a b => isBlank a = false ∨ isBlank b = false

theorem collapsed_nil : Collapsed [] := ⟨by simp, by simp, by simp, .nil⟩

theorem IsWord.collapsed (h : IsWord w) : Collapsed w where
  head c hc := h.2 c (List.mem_of_head? hc)
  getLast c hc := h.2 c (List.mem_of_getLast? hc)
  space c hc hblank := by cases hblank.symm.trans (h.2 c hc)
  single := by
    refine List.Pairwise.isChain (List.pairwise_iff_forall_sublist.mpr fun hsub => ?_)
    exact .inl (h.2 _ (hsub.subset List.mem_cons_self))

/-- One more word in front, with a space behind it. -/
theorem Collapsed.word (h : Collapsed s) (hne : s ≠ []) (hw : IsWord w) :
    Collapsed (w ++ ' ' :: s) := by
  obtain ⟨a, s, rfl⟩ := List.exists_cons_of_ne_nil hne
  obtain ⟨b, w, rfl⟩ := List.exists_cons_of_ne_nil hw.1
  have ha := h.head a rfl
  refine ⟨?_, ?_, ?_, ?_⟩
  · intro c hc
    exact hw.2 c (List.mem_of_head? hc)
  · intro c hc
    rw [List.getLast?_append_of_ne_nil _ (List.cons_ne_nil _ _), List.getLast?_cons_cons] at hc
    exact h.getLast c hc
  · intro c hc hblank
    rcases List.mem_append.mp hc with hc | hc
    · exact hw.collapsed.space c hc hblank
    · rcases List.mem_cons.mp hc with rfl | hc
      · rfl
      · exact h.space c hc hblank
  · refine hw.collapsed.single.append (.cons_cons (.inr ha) h.single) fun x hx y _ => ?_
    exact .inl (hw.collapsed.getLast x hx)

theorem collapsed_unwords (h : ∀ w ∈ ws, IsWord w) : Collapsed (unwords ws) := by
  fun_induction unwords ws with
  | case1 => exact collapsed_nil
  | case2 w => exact (h w List.mem_cons_self).collapsed
  | case3 w v ws ih =>
    obtain ⟨hw, hws⟩ := List.forall_mem_cons.mp h
    refine (ih hws).word (fun hnil => ?_) hw
    have hwords := words_unwords hws
    rw [hnil] at hwords
    cases hwords

theorem words_collapse (s : String) : words (collapse s).toList = words s.toList := by
  rw [collapse, String.toList_ofList, words_unwords (isWord_of_mem_words s.toList)]

theorem collapse_eq_collapse_iff {s t : String} :
    collapse s = collapse t ↔ words s.toList = words t.toList := by
  constructor
  · intro h
    rw [← words_collapse s, h, words_collapse]
  · intro h
    rw [collapse, h, collapse]

end Text

namespace Declaration

open Text

/-- The signatures have the same words. -/
def SameWords (d d' : Declaration) : Prop :=
  ∀ ws, HasWords d.signature.toList ws ↔ HasWords d'.signature.toList ws

theorem sameWords_iff {d d' : Declaration} :
    SameWords d d' ↔ words d.signature.toList = words d'.signature.toList := by
  simp only [SameWords, hasWords_iff]
  exact ⟨fun h => (h _).mp rfl, fun h ws => h ▸ Iff.rfl⟩

/-- What normalizing makes of a declaration. -/
structure Normalized (d : Declaration) : Prop where
  collapsed : Collapsed d.normalize.signature.toList
  words : ∃ ws, ∀ ws', (HasWords d.signature.toList ws' ↔ ws' = ws) ∧
    (HasWords d.normalize.signature.toList ws' ↔ ws' = ws)
  again : d.normalize.normalize = d.normalize
  /-- Nothing but the spelling of the signature changes. -/
  others : d.normalize = { d with signature := d.normalize.signature }
  signature_eq_iff : ∀ d' : Declaration,
    d.normalize.signature = d'.normalize.signature ↔ SameWords d d'

/-- **A normalized signature is the canonical spelling of its words**, which blanks of Unicode set
apart. -/
theorem normalized (d : Declaration) : (∀ c, isBlank c = Unicode.Property.whiteSpace.contains c) ∧
    Normalized d := by
  refine ⟨isBlank_eq, ?_, ?_, d.normalize_normalize, rfl, fun d' => ?_⟩
  · simp only [normalize, collapse, String.toList_ofList]
    exact collapsed_unwords (isWord_of_mem_words _)
  · refine ⟨Text.words d.signature.toList, fun ws => ⟨hasWords_iff, ?_⟩⟩
    rw [hasWords_iff, normalize, words_collapse]
  · rw [sameWords_iff]
    exact collapse_eq_collapse_iff

end Declaration

end DeclRules

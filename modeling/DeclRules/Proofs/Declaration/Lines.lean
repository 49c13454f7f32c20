import DeclRules.Declaration.Lines
import DeclRules.Proofs.Declaration.Record
import DeclRules.Proofs.FirstFault
import DeclRules.Proofs.Json.Printing
import DeclRules.Proofs.Text.Collapse

/-! # Lines of declarations read back

An input is read line by line (`Declaration.readLines_eq_ok_iff`), and what is read has its
signature in canonical spelling (`Declaration.normalize_of_readLines`). Lines that each hold the
text of such a declaration are read as the declarations (`Declaration.readLines_unlines`). -/

namespace DeclRules

open Json

namespace Declaration

theorem normalize_normalize (d : Declaration) : d.normalize.normalize = d.normalize := by
  simp only [normalize, Text.collapse_collapse]

theorem normalize_eq_self_iff {d : Declaration} :
    d.normalize = d ↔ Text.collapse d.signature = d.signature :=
  ⟨fun h => congrArg signature h, fun h => by rw [normalize, h]⟩

/-- Reading goes line by line. -/
theorem readLines_eq_ok_iff {input : Bytes} {ds : List Declaration} :
    readLines input = .ok ds ↔ ∃ found,
      List.Forall₂ (fun l o => readLine l = .ok o) input.lines found ∧ ds = found.filterMap id := by
  have hnumbered (found : List (Option Declaration)) :
      (input.lines.zipIdx 1).mapM readNumbered = .ok found ↔
        List.Forall₂ (fun l o => readLine l = .ok o) input.lines found := by
    conv_rhs => rw [← List.zipIdx_map_fst 1 input.lines, List.forall₂_map_left_iff]
    simp only [Except.mapM_eq_ok_iff, readNumbered, Except.mapError_eq_ok_iff]
  rw [readLines, Except.bind_eq_ok_iff]
  simp only [hnumbered, pure, Except.pure, Except.ok.injEq, eq_comm]

/-- Lines that each hold a declaration. -/
theorem readLines_unlines {ls : List String} {ds : List Declaration}
    (hplain : ∀ l ∈ ls, Plain l.toList)
    (h : List.Forall₂ (fun l d => readLine (Bytes.ofText l) = .ok (some d)) ls ds) :
    readLines (Bytes.unlines (ls.map Bytes.ofText)) = .ok ds := by
  rw [readLines_eq_ok_iff, Bytes.lines_ofText hplain]
  refine ⟨ds.map some, ?_, by simp⟩
  rwa [List.forall₂_map_left_iff, List.forall₂_map_right_iff]

/-- A declaration that was read has a signature in canonical spelling. -/
theorem normalize_of_readLine {l : Bytes} {d : Declaration} (h : readLine l = .ok (some d)) :
    d.normalize = d := by
  unfold readLine at h
  split at h
  · cases h
  · split at h
    · cases h
    · rename_i s _ _
      cases hd : decodeText decode s with
      | error e =>
        rw [hd] at h
        cases h
      | ok d' =>
        rw [hd] at h
        cases h
        exact d'.normalize_normalize

theorem normalize_of_readLines {input : Bytes} {ds : List Declaration}
    (h : readLines input = .ok ds) : ∀ d ∈ ds, d.normalize = d := by
  obtain ⟨found, hfound, rfl⟩ := readLines_eq_ok_iff.mp h
  clear h
  generalize input.lines = ls at hfound
  induction hfound with
  | nil => simp
  | @cons l o _ found ho _ ih =>
    cases o with
    | none => exact ih
    | some d => exact List.forall_mem_cons.mpr ⟨normalize_of_readLine ho, ih⟩

/-- The line of an object that a declaration can be read from. -/
theorem readLine_text {members : List (String × Value)} {d : Declaration}
    (h : decodeText decode (Value.object members).text = .ok d) (hd : d.normalize = d) :
    readLine (Bytes.ofText (Value.object members).text) = .ok (some d) := by
  have hbrace : (Value.object members).text.toList.all Text.isBlank = false := by
    rw [Value.text, String.toList_ofList, Value.print, List.all_cons]
    rfl
  simp only [readLine, Bytes.text?_ofText, hbrace, h, hd, Except.map, Bool.false_eq_true, if_false]

/-- Declarations written one a line are read back. -/
theorem readLines_text {ds : List Declaration}
    (h : ∀ d ∈ ds, Readable (maxNesting - 1) (.object d.form.entries) ∧ d.normalize = d) :
    readLines (Bytes.unlines (ds.map fun d => Bytes.ofText d.text)) = .ok ds := by
  have hlines : List.Forall₂ (fun l d => readLine (Bytes.ofText l) = .ok (some d))
      (ds.map text) ds := by
    rw [List.forall₂_map_left_iff, List.forall₂_same]
    exact fun d hd => readLine_text (decodeText_text (h d hd).1) (h d hd).2
  have hread := readLines_unlines (fun l hl => ?_) hlines
  · rwa [List.map_map] at hread
  · obtain ⟨d, -, rfl⟩ := List.mem_map.mp hl
    exact Value.plain_text _

end Declaration

end DeclRules

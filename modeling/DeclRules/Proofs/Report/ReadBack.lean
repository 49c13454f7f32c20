import DeclRules.Proofs.Declaration.Lines
import DeclRules.Proofs.Pass.Accounting
import DeclRules.Report.Jsonl

/-! # Reports read back

A report for programs has a line for each emitted declaration and a last one for the counts. Each
of the former has the members of the declaration among its own, and reads as the declaration: a
pass takes declarations with signatures in canonical spelling and leaves those as they are. The
main statement is `Report.readsBack_of_completes`. -/

namespace DeclRules

open Json

namespace Pass

/-- A pass leaves signatures in canonical spelling. -/
theorem normalize_of_mem_emittedOf {c c' : Compiled} {ds : List Declaration} {items : List Item}
    (h : Completes c ds items c') (hds : ∀ d ∈ ds, d.normalize = d) :
    ∀ d ∈ emittedOf items, d.normalize = d := by
  have hitems := h.tellsOf
  clear h
  induction hitems with
  | nil => simp [emittedOf]
  | @cons d it ds items hit _ ih =>
    obtain ⟨hd, hds⟩ := List.forall_mem_cons.mp hds
    cases he : it.emitted with
    | none => simpa [emittedOf, he] using ih hds
    | some d' =>
      have hd' : d'.normalize = d' := by
        rw [hit.emitted_form d' he]
        rw [Declaration.normalize_eq_self_iff] at hd ⊢
        exact hd
      simpa [emittedOf, he, hd'] using ih hds

end Pass

namespace Report

section Lines

open Declaration

theorem passed_string {key : String} (h : key ∉ memberNames) (s : String) :
    Passed (key, .string s) :=
  ⟨h, _, reads_string s, rfl⟩

theorem passed_nat {key : String} (h : key ∉ memberNames) (n : Nat) : Passed (key, .nat n) :=
  ⟨h, _, reads_int n, rfl⟩

theorem passed_strings {key : String} (h : key ∉ memberNames) (l : List String) :
    Passed (key, .array (l.map .string)) := by
  have hreadable : Readable 1 (.array (l.map .string)) := .array fun v hv => by
    obtain ⟨s, -, rfl⟩ := List.mem_map.mp hv
    exact .string s
  refine ⟨h, _, reads_print hreadable, ?_⟩
  have hitems : Document.ignoreItems (Document.ofValues (l.map .string)) = .ok () := by
    refine Document.ignoreItems_eq fun v hv => ?_
    rw [ofValues_eq, List.map_map] at hv
    obtain ⟨s, -, rfl⟩ := List.mem_map.mp hv
    rfl
  rw [Document.ofValue, Document.ignore, hitems]
  rfl

/-- The line of an emitted declaration. -/
def jsonItemLine (i : Item) (d : Declaration) : String := (Value.object (itemMembers i d)).text

theorem decodeText_jsonItemLine {i : Item} {d : Declaration}
    (hform : Readable (maxNesting - 1) (.object d.form.entries)) :
    decodeText Declaration.decode (jsonItemLine i d) = .ok d := by
  simp only [jsonItemLine, itemMembers, List.append_assoc]
  -- what is said beside the declaration goes under names that it has no member for
  refine decodeText_members hform ?_ ?_
  · rw [List.forall_mem_singleton]
    exact passed_string (by decide) _
  · simp only [List.forall_mem_append, List.forall_mem_singleton]
    refine ⟨passed_string (by decide) _, ?_, ?_, ?_⟩
    · cases i.disposition.rule? with
      | none => simp [optional]
      | some n => exact List.forall_mem_singleton.mpr (passed_nat (by decide) n)
    · cases i.origin with
      | none => simp [optional]
      | some n => exact List.forall_mem_singleton.mpr (passed_string (by decide) _)
    · split
      · simp
      · exact List.forall_mem_singleton.mpr (passed_strings (by decide) _)

/-- The lines of a report on a pass but the last. -/
def jsonItemLines (items : List Item) : List String :=
  items.filterMap fun i => i.emitted.map (jsonItemLine i)

theorem jsonLines_eq (items : List Item) : jsonLines items =
    jsonItemLines items ++ [(Value.object (summaryMembers (Summary.ofItems items))).text] := rfl

theorem plain_jsonItemLines (items : List Item) : ∀ l ∈ jsonItemLines items, Plain l.toList := by
  intro l hl
  obtain ⟨i, -, hi⟩ := List.mem_filterMap.mp hl
  obtain ⟨d, -, rfl⟩ := Option.map_eq_some_iff.mp hi
  exact Value.plain_text _

/-- There is one line for each emitted declaration. -/
theorem forall₂_jsonItemLines (items : List Item) :
    List.Forall₂ (fun d l => ∃ i, l = jsonItemLine i d) (emittedOf items) (jsonItemLines items) := by
  induction items with
  | nil => exact .nil
  | cons i items ih =>
    unfold emittedOf jsonItemLines at ih ⊢
    cases he : i.emitted with
    | none => simpa [he] using ih
    | some d =>
      simp only [List.filterMap_cons, he, Option.map_some]
      exact .cons ⟨i, rfl⟩ ih

theorem readLines_jsonItemLines {items : List Item}
    (hforms : ∀ d ∈ emittedOf items, Readable (maxNesting - 1) (.object d.form.entries))
    (hsignatures : ∀ d ∈ emittedOf items, d.normalize = d) :
    readLines (Bytes.unlines ((jsonItemLines items).map Bytes.ofText)) = .ok (emittedOf items) := by
  have hlines := (List.forall₂_and_left _ _).mpr
    ⟨fun d hd => And.intro (hforms d hd) (hsignatures d hd), forall₂_jsonItemLines items⟩
  refine readLines_unlines (plain_jsonItemLines items) (hlines.flip.imp ?_)
  rintro l d ⟨⟨hform, hsignature⟩, i, rfl⟩
  exact readLine_text (decodeText_jsonItemLine hform) hsignature

end Lines

/-- The bytes of a report on a pass. -/
def jsonOutput (items : List Item) : Bytes := Bytes.ofText (joinLines (jsonLines items))

theorem jsonOutput_eq (items : List Item) :
    jsonOutput items = Bytes.unlines ((jsonLines items).map Bytes.ofText) :=
  Bytes.ofText_join _

theorem lines_jsonOutput (items : List Item) :
    (jsonOutput items).lines = (jsonLines items).map Bytes.ofText := by
  rw [jsonOutput_eq, Bytes.lines_ofText]
  rw [jsonLines_eq]
  exact List.forall_mem_append.mpr
    ⟨plain_jsonItemLines items, List.forall_mem_singleton.mpr (Value.plain_text _)⟩

/-- What is read from the output of a report on a pass. -/
structure ReadsBack (items : List Item) : Prop where
  /-- The output is lines that end with line feeds, one for each emitted declaration and one
  more. -/
  unlines_lines : Bytes.unlines (jsonOutput items).lines = jsonOutput items
  length_lines : (jsonOutput items).lines.length = (emittedOf items).length + 1
  /-- The last line has the counts. -/
  getLast_lines : (jsonOutput items).lines.getLast? =
    some (Bytes.ofText (Value.object (summaryMembers (Summary.ofItems items))).text)
  /-- The lines before it are read as what was emitted. -/
  readLines_dropLast : Declaration.readLines (Bytes.unlines (jsonOutput items).lines.dropLast) =
    .ok (emittedOf items)

/-- **What a pass emits is read back from its report.** A form stands inside the object of its
line, and so may nest one level less than a text that is read. -/
theorem readsBack_of_completes {c c' : Compiled} {input : Bytes} {ds : List Declaration}
    {items : List Item} (hread : Declaration.readLines input = .ok ds)
    (hpass : Pass.Completes c ds items c')
    (hforms : ∀ d ∈ emittedOf items, Readable (maxNesting - 1) (.object d.form.entries)) :
    ReadsBack items := by
  have hsignatures := Pass.normalize_of_mem_emittedOf hpass
    (Declaration.normalize_of_readLines hread)
  refine ⟨?_, ?_, ?_, ?_⟩ <;> rw [lines_jsonOutput]
  · exact (jsonOutput_eq items).symm
  · simp [jsonLines_eq, (forall₂_jsonItemLines items).length_eq]
  · simp [jsonLines_eq]
  · rw [jsonLines_eq, List.map_append, List.map_singleton, List.dropLast_concat]
    exact readLines_jsonItemLines hforms hsignatures

/-- A function whose text has to be escaped almost everywhere. -/
def oddFunction : Declaration where
  kind := .function
  container := "a\\b"
  name := "\"\n\x01"
  access := .pub
  signature := "é \x7f"
  form := ⟨[("note", .array [.string "\t", .number (.int (-3)), .null])], List.pairwise_singleton ..⟩

/-- A declaration that no rule is for is emitted as it was read. -/
theorem readsBack_of_completes_oddFunction : ∃ c c' input items,
    Ruleset.anyTypedef.compile = .ok c ∧ Declaration.readLines input = .ok [oddFunction] ∧
    Pass.Completes c [oddFunction] items c' ∧ emittedOf items = [oddFunction] ∧
    ReadsBack items := by
  obtain ⟨c, hc⟩ := Ruleset.exists_compile_anyTypedef
  have hform : Readable (maxNesting - 1) (.object oddFunction.form.entries) := by
    refine .object oddFunction.form.ordered fun m hm => ?_
    cases List.mem_singleton.mp hm
    refine .array fun v hv => ?_
    simp only [List.mem_cons, List.not_mem_nil, or_false] at hv
    rcases hv with rfl | rfl | rfl
    · exact .string _
    · exact .int (by decide)
    · exact .null
  have hsignature : oddFunction.normalize = oddFunction := by
    rw [Declaration.normalize_eq_self_iff]
    decide
  have hnone : (c.table .function).firstMatch oddFunction = none := by
    have hentries := Table.compile_eq_ok_iff.mp (Ruleset.compile_table hc .function)
    have hbuild : Ruleset.anyTypedef.build .function = [] := by rw [Ruleset.build_eq]; rfl
    exact (Table.firstMatch_eq_none_iff hentries).mpr (by simp [hbuild])
  have hitem : Pass.itemUnder c.table oddFunction = .ok {
      kind := .function, container := oddFunction.container, name := oddFunction.name,
      disposition := .unmatched, origin := none, changed := [], emitted := some oddFunction } := by
    change Item.ofMatch _ (.ok ((c.table .function).firstMatch oddFunction)) = _
    rw [hnone]
    rfl
  have hrun : Pass.Completes c [oddFunction] _ _ := .inl (Pass.run_eq _ c |>.trans
    (by rw [Except.mapM_eq_ok_iff.mpr (.cons hitem .nil)]))
  have hread := Declaration.readLines_text
    (List.forall_mem_singleton.mpr ⟨hform, hsignature⟩)
  refine ⟨c, _, _, _, hc, hread, hrun, rfl, readsBack_of_completes hread hrun ?_⟩
  exact List.forall_mem_singleton.mpr hform

end Report

end DeclRules

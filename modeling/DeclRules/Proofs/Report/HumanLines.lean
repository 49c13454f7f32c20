import DeclRules.Proofs.Command.Listing
import DeclRules.Proofs.Declaration.Lines
import DeclRules.Proofs.Pass.Accounting
import DeclRules.Proofs.Text.Feeds
import DeclRules.Proofs.Unicode.Letters
import DeclRules.Report.Human

/-! # Lines of reports for people

Reports for people have names, attribute keys, patterns and labels as they are. The line feeds of
such a report are the ends of its lines and those of the texts that are written into them
(`Item.feeds`, `Usage.feeds`); all else that is written is free of them. A report is thus the lines
that it is made of if and only if these texts have no line feed. The main statement is
`Report.lines_of_completes`. -/

namespace DeclRules

open Text (feeds HasLines)

/-- The line feeds that an item has in its line. -/
def Item.feeds (i : Item) : Nat :=
  Text.feeds i.container + Text.feeds i.name + (i.changed.map Text.feeds).sum

/-- The line feeds that a row has in its line. -/
def Usage.feeds (u : Usage) : Nat := (u.patterns.map Text.feeds).sum + Text.feeds u.action

/-- The text that a label has from the rule file: a template, a mark or a key. -/
def StandardAction.argument : StandardAction → String
  | rewriteDecl s | rewriteResult s | annotate s | remove s | set s _ => s
  | _ => ""

theorem StandardAction.feeds_label (a : StandardAction) :
    feeds a.action.label = feeds a.argument := by
  have hbracket (s t : String) (hs : feeds s = 0) : feeds (s ++ t ++ ")") = feeds t := by
    have hend : feeds ")" = 0 := rfl
    rw [Text.feeds_append, Text.feeds_append, hs, hend, Nat.zero_add, Nat.add_zero]
  cases a with
  | discard | discardBase | markExternal | markAbstract | noop => rfl
  | rewriteDecl | rewriteResult | annotate | remove | set => exact hbracket _ _ rfl

namespace Report

section Plain

theorem feeds_toString (n : Nat) : feeds (toString n) = 0 :=
  Text.feeds_of_plain (plain_toString_nat n)

theorem feeds_rulesetName (n : RulesetName) : feeds n.text = 0 :=
  Text.feeds_of_plain n.plain_text

theorem feeds_kind (k : Kind) : feeds k.text = 0 := by cases k <;> rfl

theorem feeds_padded (width : Nat) (s : String) : feeds (padded width s) = feeds s := by
  simp [padded, Text.feeds, List.count_replicate]

theorem feeds_verdict (x : Disposition) : feeds (verdict x).text = 0 := by
  cases x <;> exact feeds_padded ..

theorem feeds_ruleNote (i : Item) : feeds (ruleNote i) = 0 := by
  unfold ruleNote
  cases i.disposition.rule? with
  | none => rfl
  | some rule =>
    cases i.origin with
    | none =>
      simp only [Text.feeds_append, feeds_toString]
      rfl
    | some n =>
      simp only [Text.feeds_append, feeds_toString, Option.map_some, Option.getD_some,
        feeds_rulesetName]
      rfl

end Plain

/-- The text of a line without styles. -/
def Line.text (l : Line) : String := l.render false

theorem renderLines_eq (ls : List Line) : renderLines false ls = Text.ended (ls.map Line.text) := by
  rw [renderLines, Text.ended, List.map_map]
  rfl

theorem render_false (s : Span) : s.render false = s.text := by
  unfold Span.render
  cases s.style <;> rfl

theorem text_plain (s : String) : Line.text [plain s] = s := by
  simp [Line.text, Line.render, render_false, plain]

/-- A span and what stands behind it. -/
theorem text_span_plain (a : Span) (s : String) : Line.text [a, plain s] = a.text ++ s := by
  simp [Line.text, Line.render, render_false, plain]

theorem feeds_changeNote (i : Item) : feeds (changeNote i) = (i.changed.map feeds).sum := by
  unfold changeNote
  split
  · rename_i h
    rw [List.isEmpty_iff.mp h]
    rfl
  · rw [Text.feeds_append, Text.feeds_intercalate rfl]
    exact Nat.zero_add _

theorem feeds_qualifiedName (container name : String) :
    feeds (qualifiedName container name) = feeds container + feeds name := by
  unfold qualifiedName
  split
  · rename_i h
    rw [String.isEmpty_iff.mp h]
    exact (Nat.zero_add _).symm
  · rw [Text.feeds_append, Text.feeds_append]
    rfl

/-- The verdict, the kind and the rule are written without line feeds. -/
theorem feeds_itemLine (i : Item) : feeds (itemLine i).text = i.feeds := by
  have hblank : feeds " " = 0 := rfl
  rw [itemLine, text_span_plain]
  simp only [Text.feeds_append, feeds_verdict, feeds_kind, hblank, feeds_qualifiedName,
    feeds_ruleNote, feeds_changeNote, Nat.zero_add, Nat.add_zero]
  rfl

theorem feeds_summaryLine (s : Summary) : feeds (summaryLine s).text = 0 := by
  rw [summaryLine, text_plain]
  simp only [Text.feeds_append, feeds_toString]
  rfl

theorem feeds_patternList (patterns : List String) :
    feeds (patternList patterns) = (patterns.map feeds).sum := by
  have hquoted (p : String) : feeds ("\"" ++ p ++ "\"") = feeds p := by
    rw [Text.feeds_append, Text.feeds_append]
    exact Nat.zero_add _
  rw [patternList, Text.feeds_append, Text.feeds_append, Text.feeds_intercalate rfl, List.map_map]
  simp only [Function.comp_def, hquoted]
  exact Nat.zero_add _

theorem feeds_usageLine (u : Usage) : feeds (usageLine u).text = u.feeds := by
  have horigin : feeds ((u.origin.map fun n => " [" ++ n.text ++ "]").getD "") = 0 := by
    cases u.origin with
    | none => rfl
    | some n =>
      simp only [Option.map_some, Option.getD_some, Text.feeds_append, feeds_rulesetName]
      rfl
  have hsigns : feeds "  " = 0 ∧ feeds " #" = 0 ∧ feeds " " = 0 ∧ feeds " -> " = 0 :=
    ⟨rfl, rfl, rfl, rfl⟩
  rw [usageLine, text_span_plain]
  simp only [Text.feeds_append, feeds_kind, feeds_toString, horigin, feeds_patternList, hsigns,
    Nat.zero_add, Nat.add_zero]
  rfl

theorem feeds_headingLine (heading : String) (n : Nat) :
    feeds (Line.text [plain (heading ++ " (" ++ toString n ++ "):")]) = feeds heading := by
  rw [text_plain]
  simp only [Text.feeds_append, feeds_toString]
  rfl

/-- The lines of a report on a pass. -/
def itemLines (unmatchedToo : Bool) (items : List Item) : List String :=
  (shown unmatchedToo items).map (fun i => (itemLine i).text) ++
    ["", (summaryLine (Summary.ofItems items)).text]

/-- The lines of a report on rules. -/
def usageLines (heading : String) (rows : List Usage) : List String :=
  Line.text [plain (heading ++ " (" ++ toString rows.length ++ "):")] ::
    rows.map fun u => (usageLine u).text

theorem renderLines_human (unmatchedToo : Bool) (items : List Item) :
    renderLines false (human unmatchedToo items) = Text.ended (itemLines unmatchedToo items) := by
  rw [renderLines_eq, human, List.map_append, List.map_map]
  rfl

theorem renderLines_humanRules (heading : String) (rows : List Usage) :
    renderLines false (humanRules heading rows) = Text.ended (usageLines heading rows) := by
  rw [renderLines_eq, humanRules, List.map_cons, List.map_map]
  rfl

theorem sum_feeds_itemLines (unmatchedToo : Bool) (items : List Item) :
    ((itemLines unmatchedToo items).map feeds).sum =
      ((shown unmatchedToo items).map Item.feeds).sum := by
  have hlast : [feeds "", feeds (summaryLine (Summary.ofItems items)).text].sum = 0 := by
    rw [feeds_summaryLine]
    rfl
  rw [itemLines, List.map_append, List.sum_append, List.map_cons, List.map_singleton, hlast,
    List.map_map]
  simp only [Function.comp_def, feeds_itemLine, Nat.add_zero]

theorem sum_feeds_usageLines (heading : String) (rows : List Usage) :
    ((usageLines heading rows).map feeds).sum = feeds heading + (rows.map Usage.feeds).sum := by
  rw [usageLines, List.map_cons, List.sum_cons, feeds_headingLine, List.map_map]
  simp only [Function.comp_def, feeds_usageLine]

theorem hasLines_human_iff {unmatchedToo : Bool} {items : List Item} :
    HasLines (renderLines false (human unmatchedToo items)) (itemLines unmatchedToo items) ↔
      ∀ i ∈ shown unmatchedToo items, i.feeds = 0 := by
  rw [renderLines_human, Text.hasLines_ended_iff, sum_feeds_itemLines, List.sum_eq_zero_iff,
    List.forall_mem_map]

theorem hasLines_humanRules_iff {heading : String} {rows : List Usage} :
    HasLines (renderLines false (humanRules heading rows)) (usageLines heading rows) ↔
      feeds heading = 0 ∧ ∀ u ∈ rows, u.feeds = 0 := by
  rw [renderLines_humanRules, Text.hasLines_ended_iff, sum_feeds_usageLines, Nat.add_eq_zero_iff,
    List.sum_eq_zero_iff, List.forall_mem_map]

theorem feeds_human (unmatchedToo : Bool) (items : List Item) :
    feeds (renderLines false (human unmatchedToo items)) =
      (shown unmatchedToo items).length + 2 + ((shown unmatchedToo items).map Item.feeds).sum := by
  rw [renderLines_human, Text.feeds_ended, sum_feeds_itemLines, itemLines, List.length_append,
    List.length_map]
  rfl

theorem feeds_humanRules (heading : String) (rows : List Usage) :
    feeds (renderLines false (humanRules heading rows)) =
      rows.length + 1 + (feeds heading + (rows.map Usage.feeds).sum) := by
  rw [renderLines_humanRules, Text.feeds_ended, sum_feeds_usageLines, usageLines, List.length_cons,
    List.length_map]

theorem shown_eq (unmatchedToo : Bool) (items : List Item) : shown unmatchedToo items =
    if unmatchedToo then items else items.filter fun i => !i.disposition.isUnmatched := by
  cases unmatchedToo with
  | true => exact List.filter_eq_self.mpr fun _ _ => rfl
  | false =>
    refine List.filter_congr fun i _ => ?_
    cases i.disposition <;> rfl

/-- What a report on a pass over declarations is as lines. -/
structure TellsOfPass (ds : List Declaration) (items : List Item) (unmatchedToo : Bool)
    (text : String) : Prop where
  /-- The items are one for each declaration, in their order. -/
  tellsOf : List.Forall₂ (fun d i => i.TellsOf d) ds items
  shown_eq : shown unmatchedToo items =
    if unmatchedToo then items else items.filter fun i => !i.disposition.isUnmatched
  /-- Besides those at the ends of lines there are the line feeds of names, scopes and keys. -/
  feeds_eq : feeds text =
    (shown unmatchedToo items).length + 2 + ((shown unmatchedToo items).map Item.feeds).sum
  hasLines_iff : HasLines text (itemLines unmatchedToo items) ↔
    ∀ i ∈ shown unmatchedToo items, i.feeds = 0

/-- What a report on rules of the ruleset is as lines. -/
structure TellsOfRules (R : Ruleset) (heading : String) (rows : List Usage) (text : String) :
    Prop where
  /-- The line feeds of a row are those of the patterns of its rule and of what the action has from
  the file. -/
  entry : ∀ u ∈ rows, ∃ k, ∃ e ∈ R.build k, ∃ a : StandardAction, e.action = a.action ∧
    u.patterns = e.patterns ∧ feeds u.action = feeds a.argument
  feeds_eq : feeds text = rows.length + 1 + (feeds heading + (rows.map Usage.feeds).sum)
  hasLines_iff : HasLines text (usageLines heading rows) ↔
    feeds heading = 0 ∧ ∀ u ∈ rows, u.feeds = 0

variable {c c' : Compiled} {ds : List Declaration} {items : List Item} {v : FileView} {p : Path}
  {R : Ruleset} {compiled : Compiled}

theorem exists_entry_of_row (hload : Loader.loadFresh v p = .ok R)
    (hcompile : R.compile = .ok compiled) {ops : List Operation} {k : Kind} {u : Usage}
    (hu : u ∈ (compiled.afterAll ops).rows k) : ∃ e ∈ R.build k, ∃ a : StandardAction,
      e.action = a.action ∧ u.patterns = e.patterns ∧ feeds u.action = feeds a.argument := by
  rw [Compiled.rows, Ruleset.usage_afterAll hcompile] at hu
  obtain ⟨w, hw, rfl⟩ := List.mem_map.mp hu
  have he : w.1 ∈ R.build k := List.fst_mem_of_mem_zipIdx hw
  have hactions := (Loader.loadFresh_eq_ok_iff.mp hload).actions R (List.mem_singleton_self R)
  obtain ⟨a, ha⟩ := hactions k _ he
  refine ⟨w.1, he, a, ha, rfl, ?_⟩
  rw [← StandardAction.feeds_label, ← ha]
  rfl

/-- **Only line feeds in what is written add lines to reports.** The report on a pass is one line
for each shown item, in the order of the input, an empty line and a line with the counts, if and
only if the shown names, scopes and keys have no line feed; the report on rules that were loaded
from files is the heading and one line for each rule if and only if the heading and the patterns,
templates, marks and keys have none. Each of these line feeds is one more line. -/
theorem lines_of_completes (hpass : Pass.Completes c ds items c')
    (hload : Loader.loadFresh v p = .ok R) (hcompile : R.compile = .ok compiled) :
    (∀ unmatchedToo, TellsOfPass ds items unmatchedToo
      (renderLines false (human unmatchedToo items))) ∧
    ∀ ops rows, (∀ u ∈ rows, ∃ k, u ∈ (compiled.afterAll ops).rows k) → ∀ heading,
      TellsOfRules R heading rows (renderLines false (humanRules heading rows)) := by
  refine ⟨fun unmatchedToo => ?_, fun ops rows hrows heading => ?_⟩
  · exact ⟨hpass.tellsOf, shown_eq _ _, feeds_human _ _, hasLines_human_iff⟩
  · refine ⟨fun u hu => ?_, feeds_humanRules _ _, hasLines_humanRules_iff⟩
    obtain ⟨k, hu⟩ := hrows u hu
    exact ⟨k, exists_entry_of_row hload hcompile hu⟩

section Functions

open Ruleset (anyTypedef)

/-- A function that no rule is for. -/
def functionCalled (name : String) : Declaration := { kind := .function, name }

def functionItem (name : String) : Item where
  kind := .function
  container := ""
  name := name
  disposition := .unmatched
  origin := none
  changed := []
  emitted := some (functionCalled name)

theorem completes_functionCalled (hc : anyTypedef.compile = .ok c) (name : String) :
    ∃ c', Pass.Completes c [functionCalled name] [functionItem name] c' := by
  have hnone : (c.table .function).firstMatch (functionCalled name) = none :=
    Ruleset.firstMatch_anyTypedef_of_ne hc (d := functionCalled name) (by simp [functionCalled])
  exact ⟨_, Pass.completes_of_forall₂ (.cons (Pass.itemUnder_of_unmatched hnone) .nil)⟩

def functionLines : List String :=
  ["keep    function f", "", "1 declarations: 0 rewritten, 0 discarded, 1 unmatched"]

theorem itemLines_functionItem : itemLines true [functionItem "f"] = functionLines := by cbv

def typedefLines : List String :=
  ["Rules of _ (1):", "  typedef #0 [_] [\".*\", \".*\"] -> discard"]

theorem usageLines_typedefUsage :
    usageLines "Rules of _" [Command.typedefUsage] = typedefLines := by cbv

/-- No name, pattern or label breaks a line. -/
theorem lines_of_completes_function : ∃ c c', anyTypedef.compile = .ok c ∧
    Pass.Completes c [functionCalled "f"] [functionItem "f"] c' ∧
    HasLines (renderLines false (human true [functionItem "f"])) functionLines ∧
    HasLines (renderLines false (humanRules "Rules of _" (c.rows .typedef))) typedefLines := by
  obtain ⟨c, hc⟩ := Ruleset.exists_compile_anyTypedef
  obtain ⟨c', hpass⟩ := completes_functionCalled hc "f"
  obtain ⟨hitems, hrules⟩ := lines_of_completes hpass Command.loadFresh_typedefFiles hc
  have hrows : c.rows .typedef = [Command.typedefUsage] := Command.rows_anyTypedef hc .typedef
  have hlisted := hrules [] (c.rows .typedef) (fun u hu => ⟨.typedef, hu⟩) "Rules of _"
  rw [hrows] at hlisted
  refine ⟨c, c', hc, hpass, ?_, ?_⟩
  · rw [← itemLines_functionItem, (hitems true).hasLines_iff]
    exact List.forall_mem_singleton.mpr rfl
  · rw [hrows, ← usageLines_typedefUsage, hlisted.hasLines_iff]
    exact ⟨rfl, List.forall_mem_singleton.mpr rfl⟩

def brokenName : String := "a\nb"

def brokenInput : Bytes :=
  Bytes.unlines ([functionCalled brokenName].map fun d => Bytes.ofText d.text)

/-- The line of a function breaks where its name does. -/
theorem not_forall_hasLines_human : ¬ ∀ c c' ds items, Declaration.readLines brokenInput = .ok ds →
    Pass.Completes c ds items c' →
    HasLines (renderLines false (human true items)) (itemLines true items) := by
  intro h
  obtain ⟨c, hc⟩ := Ruleset.exists_compile_anyTypedef
  obtain ⟨c', hpass⟩ := completes_functionCalled hc brokenName
  have hreadable : ∀ d ∈ [functionCalled brokenName],
      Json.Readable (Json.maxNesting - 1) (.object d.form.entries) ∧ d.normalize = d :=
    List.forall_mem_singleton.mpr ⟨.object .nil fun _ hm => absurd hm List.not_mem_nil, rfl⟩
  have hread := Declaration.readLines_text hreadable
  have hmem : functionItem brokenName ∈ shown true [functionItem brokenName] := by simp [shown]
  have hfeeds : (functionItem brokenName).feeds ≠ 0 := by decide
  exact hfeeds (hasLines_human_iff.mp (h c c' _ _ hread hpass) _ hmem)

end Functions

end Report

end DeclRules

import DeclRules.Proofs.Json.Decoding
import DeclRules.Proofs.Json.Printing
import DeclRules.Proofs.Keyed
import DeclRules.Proofs.Pass.Usage
import DeclRules.Proofs.Text.Feeds
import DeclRules.Report.Jsonl
import DeclRules.RuleFile.Basic

/-! # What a row says of its rule

A row has the patterns of its rule as they were written, so that a rule can be made of them anew
(`Usage.recompile`). The rows of entries for one kind therefore tell which entry is the first to
match a declaration (`Usage.firstMatch_rows_iff`), and with the label of a standard action whether
the rule discards. From that follows what the item of a declaration says (`Usage.Foretells`). Rows
are printed one on a line, each as an object whose members are what the row says
(`Report.lists_jsonRuleLines`). -/

namespace DeclRules

open Json

/-- Edits and discarding have different labels. -/
theorem StandardAction.label_eq_discard_iff (a : StandardAction) :
    a.action.label = "discard" ↔ a.action.isDiscard = true := by
  -- what takes an argument ends with a bracket
  have hbracket (s t : String) : s ++ t ++ ")" ≠ "discard" := by
    intro h
    have hlast := congrArg (fun s => s.toList.getLast?) h
    simp at hlast
  cases a <;> simp [action, transform, label, Action.label, Action.isDiscard, hbracket]

theorem Disposition.rule?_eq_none_iff {x : Disposition} : x.rule? = none ↔ x = .unmatched := by
  cases x <;> simp [rule?]

/-- The disposition of what falls to rule number `rule`. -/
def Disposition.under (discards : Bool) (rule : Nat) : Disposition :=
  if discards then .discarded rule else .rewritten rule

theorem Disposition.under_eq_discarded_iff {discards : Bool} {rule : Nat} :
    under discards rule = .discarded rule ↔ discards = true := by
  cases discards <;> simp [under]

namespace Usage

variable {k : Kind} {d : Declaration}

/-- A rule of a file that gives the patterns of the row in order, and some action. -/
def row (u : Usage) (a : StandardAction) : RuleFile.Row where
  named _ := none
  positional := some u.patterns
  action := a

/-- That rule compiled, at some place of a file. -/
def recompile (u : Usage) (k : Kind) (index : Nat) (a : StandardAction) :
    Except ConfigError (Rule k) := do
  Rule.compile k index (← (u.row a).entry k index)

/-- The patterns of the row, compiled anew, match the declaration. -/
def Matches (u : Usage) (k : Kind) (d : Declaration) : Prop :=
  ∃ r, u.recompile k 0 .noop = .ok r ∧ (r.capture d).isSome

/-- Row number `n` matches and none before it does. -/
def FirstMatch (rows : List Usage) (k : Kind) (d : Declaration) (n : Nat) : Prop :=
  ∃ u, rows[n]? = some u ∧ u.Matches k d ∧
    ∀ j u', j < n → rows[j]? = some u' → ¬ u'.Matches k d

/-- The item of a declaration is what the rows for its kind have in store for it. -/
structure Foretells (rows : List Usage) (d : Declaration) (it : Item) : Prop where
  rule_iff : ∀ n, it.disposition.rule? = some n ↔ FirstMatch rows d.kind d n
  unmatched_iff : it.disposition = .unmatched ↔ ∀ u ∈ rows, ¬ u.Matches d.kind d
  origin : ∀ n u, it.disposition.rule? = some n → rows[n]? = some u → it.origin = u.origin
  discarded_iff : ∀ n u, it.disposition.rule? = some n → rows[n]? = some u →
    (it.disposition = .discarded n ↔ u.action = "discard")

theorem entry_row (u : Usage) (a : StandardAction) (k : Kind) (index : Nat) :
    (u.row a).entry k index = .ok { kind := k, patterns := u.patterns, action := a.action } := by
  have hforeign : (u.row a).foreign? k = none := by
    simp [RuleFile.Row.foreign?, row]
  have hnamed : (k.fields.any fun f => ((u.row a).named f).isSome) = false := by
    simp [row]
  unfold RuleFile.Row.entry
  rw [hforeign, hnamed]
  rfl

theorem recompile_eq_ok_iff {u : Usage} {index : Nat} {a : StandardAction} {r : Rule k} :
    u.recompile k index a = .ok r ↔
      r.CompiledFrom { kind := k, patterns := u.patterns, action := a.action } := by
  rw [recompile, entry_row]
  exact Rule.compile_eq_ok_iff

section Entries

variable {es : List Entry} {hits : Nat → UInt64}

/-- The rows of entries for `k`, with their counts. -/
def rows (k : Kind) (es : List Entry) (hits : Nat → UInt64) : List Usage :=
  es.zipIdx.map fun w => w.1.usage k w.2 (hits w.2)

theorem getElem?_rows (n : Nat) :
    (rows k es hits)[n]? = es[n]?.map fun e => e.usage k n (hits n) := by
  simp only [rows, List.getElem?_map, List.getElem?_zipIdx, Option.map_map, Nat.zero_add]
  rfl

theorem map_index_rows : (rows k es hits).map (·.index) = List.range (rows k es hits).length := by
  refine List.ext_getElem? fun n => ?_
  rw [List.getElem?_map, getElem?_rows]
  by_cases h : n < es.length
  · simp [h, rows, Entry.usage]
  · simp [h, rows]

/-- A row matches if and only if its entry does. -/
theorem matches_usage_iff {e : Entry} (he : e.Fits k) {i : Nat} {n : UInt64} :
    (e.usage k i n).Matches k d ↔ e.Matches d := by
  let e' : Entry := { kind := k, patterns := e.patterns, action := StandardAction.noop.action }
  have hmatches : e'.Matches d ↔ e.Matches d := by
    unfold Entry.Matches
    rw [he.kind]
  rw [← hmatches]
  constructor
  · rintro ⟨r, hr, hsome⟩
    exact (recompile_eq_ok_iff.mp hr).isSome_capture_iff.mp hsome
  · intro h
    obtain ⟨r, hr⟩ := Rule.exists_compiledFrom_iff.mpr (⟨rfl, he.arity, he.patterns⟩ : e'.Fits k)
    exact ⟨r, recompile_eq_ok_iff.mpr hr, hr.isSome_capture_iff.mpr h⟩

/-- A row compiles anew to the patterns of its rule. -/
theorem exists_recompile {e : Entry} {r : Rule k} (hr : r.CompiledFrom e) (i : Nat) (n : UInt64)
    (index : Nat) (a : StandardAction) : ∃ r', (e.usage k i n).recompile k index a = .ok r' ∧
      r'.patterns = r.patterns := by
  exact ⟨⟨r.patterns, r.length_patterns, a.action, none⟩,
    recompile_eq_ok_iff.mpr ⟨rfl, hr.patterns, rfl, rfl⟩, rfl⟩

theorem firstMatch_rows_iff (hes : ∀ e ∈ es, e.Fits k) {n : Nat} :
    FirstMatch (rows k es hits) k d n ↔ ∃ e, Entry.FirstMatch es d n e := by
  have hrow {j : Nat} {e : Entry} (he : es[j]? = some e) :
      (e.usage k j (hits j)).Matches k d ↔ e.Matches d :=
    matches_usage_iff (hes e (List.mem_of_getElem? he))
  constructor
  · rintro ⟨u, hu, hmatches, hfirst⟩
    rw [getElem?_rows] at hu
    obtain ⟨e, he, rfl⟩ := Option.map_eq_some_iff.mp hu
    refine ⟨e, he, (hrow he).mp hmatches, fun j e' hj he' hmatches' => ?_⟩
    exact hfirst j _ hj (by rw [getElem?_rows, he']; rfl) ((hrow he').mpr hmatches')
  · rintro ⟨e, he, hmatches, hfirst⟩
    refine ⟨_, by rw [getElem?_rows, he]; rfl, (hrow he).mpr hmatches, fun j u' hj hu' h' => ?_⟩
    rw [getElem?_rows] at hu'
    obtain ⟨e', he', rfl⟩ := Option.map_eq_some_iff.mp hu'
    exact hfirst j e' hj he' ((hrow he').mp h')

theorem forall_not_matches_rows_iff (hes : ∀ e ∈ es, e.Fits k) :
    (∀ u ∈ rows k es hits, ¬ u.Matches k d) ↔ ∀ e ∈ es, ¬ e.Matches d := by
  constructor
  · intro h e he hmatches
    obtain ⟨j, hj⟩ := List.getElem?_of_mem he
    have hu : (rows k es hits)[j]? = some (e.usage k j (hits j)) := by
      rw [getElem?_rows, hj]
      rfl
    exact h _ (List.mem_of_getElem? hu) ((matches_usage_iff (hes e he)).mpr hmatches)
  · intro h u hu hmatches
    obtain ⟨j, hj⟩ := List.getElem?_of_mem hu
    rw [getElem?_rows] at hj
    obtain ⟨e, he, rfl⟩ := Option.map_eq_some_iff.mp hj
    have hmem := List.mem_of_getElem? he
    exact h e hmem ((matches_usage_iff (hes e hmem)).mp hmatches)

/-- The rows of the entries that tables are compiled from foretell the items under the tables. The
actions have to be those of rule files, as others may have any label. -/
theorem foretells_of_itemUnder {tables : (k : Kind) → Table k} {it : Item}
    (hes : List.Forall₂ (fun e r => Rule.CompiledFrom r e) es (tables d.kind).rules)
    (hactions : ∀ e ∈ es, ∃ a : StandardAction, e.action = a.action)
    (h : Pass.itemUnder tables d = .ok it) : Foretells (rows d.kind es hits) d it := by
  have hfits : ∀ e ∈ es, e.Fits d.kind := Table.exists_compile_iff.mp
    ⟨_, Table.compile_eq_ok_iff.mpr hes⟩
  have hrule := (Pass.kind_rule_of_itemUnder h).2
  have hsome {n : Nat} : it.disposition.rule? = some n ↔ ∃ e, Entry.FirstMatch es d n e := by
    rw [hrule, ← Table.map_index_firstMatch_eq_some_iff hes]
  -- what the item says of the entry that it falls to
  have hitem {n : Nat} {u : Usage} (hn : it.disposition.rule? = some n)
      (hu : (rows d.kind es hits)[n]? = some u) : ∃ e ∈ es, u = e.usage d.kind n (hits n) ∧
        it.disposition = .under e.action.isDiscard n ∧ it.origin = e.origin := by
    obtain ⟨e, he⟩ := hsome.mp hn
    obtain ⟨context, -, hm⟩ := Table.firstMatch_eq_some hes he
    rw [getElem?_rows, he.getElem] at hu
    obtain ⟨-, horigin, hdisposition⟩ := Pass.item_of_firstMatch h hm
    exact ⟨e, List.mem_of_getElem? he.getElem, (Option.some.inj hu).symm, hdisposition, horigin⟩
  refine ⟨fun n => ?_, ?_, fun n u hn hu => ?_, fun n u hn hu => ?_⟩
  · rw [hsome, firstMatch_rows_iff hfits]
  · rw [← Disposition.rule?_eq_none_iff, hrule, Option.map_eq_none_iff,
      forall_not_matches_rows_iff hfits, ← Table.firstMatch_eq_none_iff hes]
  · obtain ⟨e, -, rfl, -, horigin⟩ := hitem hn hu
    exact horigin
  · obtain ⟨e, he, rfl, hdisposition, -⟩ := hitem hn hu
    obtain ⟨a, ha⟩ := hactions e he
    have hlabel := a.label_eq_discard_iff
    rw [← ha] at hlabel
    rw [hdisposition, Disposition.under_eq_discarded_iff]
    exact hlabel.symm

end Entries

end Usage

namespace Usage

/-- The members of an object say what the row says, and nothing else. -/
structure SaidBy (type : String) (u : Usage) (members : Keyed Value) : Prop where
  type : members.get? "type" = some (.string type)
  kind : members.get? "kind" = some (.string u.kind.text)
  index : members.get? "index" = some (.nat u.index)
  /-- A row without an origin lacks the member. -/
  origin : members.get? "origin" = u.origin.map fun n => .string n.text
  patterns : members.get? "patterns" = some (.array (u.patterns.map .string))
  action : members.get? "action" = some (.string u.action)
  hits : members.get? "hits" = some (.nat u.hits.toNat)
  keys : ∀ k ∈ members.keys,
    k ∈ ["type", "kind", "index", "origin", "patterns", "action", "hits"]

section Members

variable {type : String} {u : Usage}

theorem map_fst_usageMembers : (Report.usageMembers type u).map (·.1) = ["type", "kind", "index"]
    ++ (u.origin.map fun _ => "origin").toList ++ ["patterns", "action", "hits"] := by
  cases h : u.origin <;> simp [Report.usageMembers, Report.optional, h]

theorem nodup_usageMembers : ((Report.usageMembers type u).map (·.1)).Nodup := by
  rw [map_fst_usageMembers]
  cases u.origin <;> simp

theorem get?_usageMembers {k : String} {v : Value} (h : (k, v) ∈ Report.usageMembers type u) :
    (Keyed.ofList (Report.usageMembers type u)).get? k = some v := by
  refine (Keyed.get?_ofList_iff fun v' hv hv' => ?_).mpr h
  exact congrArg Prod.snd (List.inj_on_of_nodup_map nodup_usageMembers hv' hv rfl)

theorem saidBy_usageMembers : u.SaidBy type (Keyed.ofList (Report.usageMembers type u)) where
  type := get?_usageMembers (by simp [Report.usageMembers])
  kind := get?_usageMembers (by simp [Report.usageMembers])
  index := get?_usageMembers (by simp [Report.usageMembers])
  origin := by
    cases h : u.origin with
    | none =>
      rw [Option.map_none, Keyed.get?_eq_none_iff, Keyed.mem_keys_ofList_iff,
        map_fst_usageMembers, h]
      decide
    | some n => exact get?_usageMembers (by simp [Report.usageMembers, Report.optional, h])
  patterns := get?_usageMembers (by simp [Report.usageMembers])
  action := get?_usageMembers (by simp [Report.usageMembers])
  hits := get?_usageMembers (by simp [Report.usageMembers])
  keys k hk := by
    rw [Keyed.mem_keys_ofList_iff, map_fst_usageMembers] at hk
    cases h : u.origin with
    | none =>
      simp only [h, Option.map_none, Option.toList_none, List.append_nil, List.cons_append,
        List.nil_append, List.mem_cons] at hk ⊢
      tauto
    | some n => rwa [h] at hk

end Members

end Usage

namespace Report

variable {type : String} {u : Usage}

/-- The text of a row is parsed as the object of its members, unless its number is too large. -/
theorem parse_usageMembers (h : u.index < 2 ^ 64) :
    parse (Value.object (usageMembers type u)).text = .ok (.ofMembers (usageMembers type u)) := by
  refine parse_text_of_members fun m hm => ?_
  have hrange {n : Nat} (hn : n < 2 ^ 64) : Readable (maxNesting - 1) (.nat n) :=
    .int ⟨by omega, by omega⟩
  simp only [usageMembers, List.mem_append, List.mem_cons, List.not_mem_nil, or_false] at hm
  rcases hm with ((rfl | rfl | rfl) | hm) | rfl | rfl | rfl
  · exact .string _
  · exact .string _
  · exact hrange h
  · cases ho : u.origin with
    | none => simp [ho, optional] at hm
    | some n =>
      simp only [ho, optional, List.mem_singleton] at hm
      exact hm ▸ .string _
  · refine .array fun v hv => ?_
    obtain ⟨s, -, rfl⟩ := List.mem_map.mp hv
    exact .string s
  · exact .string _
  · exact hrange u.hits.toNat_lt

/-- The line is a text of an object that says what the row says. -/
def Prints (type line : String) (u : Usage) : Prop :=
  ∃ members : Keyed Value, parse line = .ok (.object members.entries) ∧ u.SaidBy type members

/-- The text lists the rows: it has a line for each of them, in their order. -/
def Lists (type text : String) (rows : List Usage) : Prop :=
  ∃ lines, Text.HasLines text lines ∧
    List.Forall₂ (fun u line => u.index < 2 ^ 64 → Prints type line u) rows lines

theorem lists_jsonRuleLines (type : String) (rows : List Usage) :
    Lists type (joinLines (jsonRuleLines type rows)) rows := by
  refine ⟨_, Text.hasLines_ended_iff.mpr (List.sum_eq_zero fun n hn => ?_), ?_⟩
  · obtain ⟨line, hline, rfl⟩ := List.mem_map.mp hn
    obtain ⟨u, -, rfl⟩ := List.mem_map.mp hline
    exact Text.feeds_of_plain (Value.plain_text _)
  · rw [jsonRuleLines, List.forall₂_map_right_iff, List.forall₂_same]
    exact fun u _ hindex => ⟨_, parse_usageMembers hindex, Usage.saidBy_usageMembers⟩

end Report

end DeclRules

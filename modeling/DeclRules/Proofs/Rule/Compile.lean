import DeclRules.Proofs.FirstFault
import DeclRules.Rule.Database
import Mathlib

/-! # Entries and the rules compiled from them

`Rule.CompiledFrom` says which rules an entry compiles to, and `Rule.compile_eq_ok_iff` that
compiling gives exactly those; where the entry stands in a table has no part in it. A compiled rule
captures from a declaration if and only if every pattern of its entry covers its field
(`Rule.CompiledFrom.isSome_capture_iff`).

A table answers with its first matching rule: `Table.firstMatch_eq_none_iff` and
`Table.firstMatch_eq_some` read that off the entries, and `Table.firstMatch_append` says what
becomes of two tables put together. -/

namespace DeclRules

/-- The source is a pattern, and it covers the text from start to end. -/
def FieldPattern.Covers (source text : String) : Prop :=
  ∃ p, compile source = .ok p ∧ p.isMatch text = true

namespace Entry

/-- Every pattern of the entry covers its field of the declaration. -/
def Matches (e : Entry) (d : Declaration) : Prop :=
  List.Forall₂ (fun f source => FieldPattern.Covers source (d.field f)) e.kind.fields e.patterns

/-- What the patterns of the entry capture, field by field in the order of the patterns. -/
def Captures (e : Entry) (d : Declaration) (c : Context) : Prop :=
  List.Forall₂ (fun (w : Field × String) m =>
    ∃ p, FieldPattern.compile w.2 = .ok p ∧ p.capture w.1 (d.field w.1) = some m)
    (e.kind.fields.zip e.patterns) c.fields

/-- Nothing is wrong with the entry for the table of `k`. -/
structure Fits (e : Entry) (k : Kind) : Prop where
  kind : e.kind = k
  arity : e.patterns.length = k.arity
  patterns : ∀ source ∈ e.patterns, ∃ p, FieldPattern.compile source = .ok p

/-- The entry at `i` matches and none before it does. -/
structure FirstMatch (es : List Entry) (d : Declaration) (i : Nat) (e : Entry) : Prop where
  getElem : es[i]? = some e
  covers : e.Matches d
  first : ∀ j e', j < i → es[j]? = some e' → ¬ e'.Matches d

theorem FirstMatch.tail {e₀ e : Entry} {es : List Entry} {d : Declaration} {i : Nat}
    (h : FirstMatch (e₀ :: es) d (i + 1) e) : FirstMatch es d i e where
  getElem := by simpa using h.getElem
  covers := h.covers
  first j e' hj he' := h.first (j + 1) e' (Nat.succ_lt_succ hj) (by simpa using he')

/-- Some entry is the first to match if any matches. -/
theorem exists_firstMatch {es : List Entry} {d : Declaration} (h : ∃ e ∈ es, e.Matches d) :
    ∃ i e, FirstMatch es d i e := by
  induction es with
  | nil => simp at h
  | cons e₀ es ih =>
    by_cases h₀ : e₀.Matches d
    · exact ⟨0, e₀, rfl, h₀, fun j _ hj => absurd hj (Nat.not_lt_zero j)⟩
    · obtain ⟨i, e, hf⟩ := ih (by simpa [h₀] using h)
      refine ⟨i + 1, e, by simpa using hf.getElem, hf.covers, fun j e' hj he' => ?_⟩
      cases j with
      | zero =>
        cases Option.some.inj (List.getElem?_cons_zero.symm.trans he')
        exact h₀
      | succ j => exact hf.first j e' (Nat.lt_of_succ_lt_succ hj) (by simpa using he')

@[simp] theorem withOrigin_kind (e : Entry) (n : RulesetName) : (e.withOrigin n).kind = e.kind :=
  rfl

@[simp] theorem withOrigin_patterns (e : Entry) (n : RulesetName) :
    (e.withOrigin n).patterns = e.patterns := rfl

end Entry

namespace FieldPattern

@[simp] theorem isSome_capture (p : FieldPattern) (f : Field) (text : String) :
    (p.capture f text).isSome = p.isMatch text := by
  simp [capture, isMatch]

theorem source_of_compile {p : FieldPattern} {source : String} (h : compile source = .ok p) :
    p.source = source := by
  obtain ⟨_, -, h⟩ := Except.bind_eq_ok_iff.mp h
  obtain ⟨_, -, h⟩ := Except.bind_eq_ok_iff.mp h
  cases h
  rfl

theorem covers_iff {p : FieldPattern} {source text : String} (h : compile source = .ok p) :
    Covers source text ↔ p.isMatch text = true := by
  refine ⟨fun ⟨p', hp', hm⟩ => ?_, fun hm => ⟨p, h, hm⟩⟩
  cases h.symm.trans hp'
  exact hm

end FieldPattern

namespace Rule

variable {k : Kind}

/-- The rule is what the entry compiles to. -/
structure CompiledFrom (r : Rule k) (e : Entry) : Prop where
  kind : e.kind = k
  patterns : List.Forall₂ (fun source p => FieldPattern.compile source = .ok p) e.patterns
    r.patterns
  action : r.action = e.action
  origin : r.origin = e.origin

theorem CompiledFrom.unique {r r' : Rule k} {e : Entry} (h : r.CompiledFrom e)
    (h' : r'.CompiledFrom e) : r = r' := by
  have hp : r.patterns = r'.patterns :=
    List.right_unique_forall₂' (fun _ _ _ h h' => Except.ok.inj (h.symm.trans h')) h.patterns
      h'.patterns
  cases r
  cases r'
  simp only [mk.injEq]
  exact ⟨hp, h.action.trans h'.action.symm, h.origin.trans h'.origin.symm⟩

theorem CompiledFrom.sources {r : Rule k} {e : Entry} (h : r.CompiledFrom e) :
    r.sources = e.patterns := by
  have hsources : List.Forall₂ (· = ·) e.patterns (r.patterns.map (·.source)) := by
    rw [List.forall₂_map_right_iff]
    exact h.patterns.imp fun _ _ hp => (FieldPattern.source_of_compile hp).symm
  exact (List.forall₂_eq_eq_eq ▸ hsources :).symm

theorem exists_compiledFrom_iff {e : Entry} : (∃ r : Rule k, r.CompiledFrom e) ↔ e.Fits k := by
  constructor
  · rintro ⟨r, h⟩
    refine ⟨h.kind, h.patterns.length_eq.trans r.length_patterns, fun source hs => ?_⟩
    obtain ⟨i, hi, rfl⟩ := List.mem_iff_getElem.mp hs
    exact ⟨_, h.patterns.get hi (h.patterns.length_eq ▸ hi)⟩
  · intro h
    obtain ⟨patterns, hp⟩ := List.exists_forall₂ h.patterns
    exact ⟨⟨patterns, hp.length_eq.symm.trans h.arity, e.action, e.origin⟩, h.kind, hp, rfl, rfl⟩

theorem compile_eq_ok_iff {index : Nat} {e : Entry} {r : Rule k} :
    compile k index e = .ok r ↔ r.CompiledFrom e := by
  have hmap {l : List FieldPattern} : e.patterns.mapM (compilePattern index e) = .ok l ↔
      List.Forall₂ (fun source p => FieldPattern.compile source = .ok p) e.patterns l := by
    simp only [Except.mapM_eq_ok_iff, compilePattern, Except.mapError_eq_ok_iff]
  constructor
  · intro h
    unfold compile at h
    split at h <;> try contradiction
    split at h <;> try contradiction
    split at h <;> try contradiction
    rename_i hk _ patterns hp
    cases h
    exact ⟨hk, hmap.mp hp, rfl, rfl⟩
  · intro h
    have hl : e.patterns.length = k.arity := h.patterns.length_eq.trans r.length_patterns
    have hp := hmap.mpr h.patterns
    unfold compile
    rw [if_pos h.kind, dif_pos hl]
    split
    · rename_i patterns hp'
      cases hp.symm.trans hp'
      cases r
      simp only [Except.ok.injEq, mk.injEq, true_and]
      exact ⟨h.action.symm, h.origin.symm⟩
    · rename_i c hp'
      cases hp.symm.trans hp'

theorem capture_eq_some_iff {r : Rule k} {d : Declaration} {c : Context} :
    r.capture d = some c ↔ List.Forall₂ (fun (w : Field × FieldPattern) m =>
      w.2.capture w.1 (d.field w.1) = some m) (k.fields.zip r.patterns) c.fields := by
  unfold capture
  rw [Option.map_eq_some_iff]
  constructor
  · rintro ⟨l, hl, rfl⟩
    exact Option.mapM_eq_some_iff.mp hl
  · intro h
    exact ⟨c.fields, Option.mapM_eq_some_iff.mpr h, rfl⟩

theorem isSome_capture_iff {r : Rule k} {d : Declaration} :
    (r.capture d).isSome ↔
      ∀ w ∈ k.fields.zip r.patterns, w.2.isMatch (d.field w.1) = true := by
  rw [Option.isSome_iff_exists]
  constructor
  · rintro ⟨c, hc⟩ w hw
    have hall := (List.forall₂_iff_get.mp (capture_eq_some_iff.mp hc))
    obtain ⟨i, hi, rfl⟩ := List.mem_iff_getElem.mp hw
    have hm := hall.2 i hi (hall.1 ▸ hi)
    rw [← FieldPattern.isSome_capture _ ((k.fields.zip r.patterns)[i]).1]
    exact Option.isSome_iff_exists.mpr ⟨_, hm⟩
  · intro h
    obtain ⟨l, hl⟩ := List.exists_forall₂ (R := fun (w : Field × FieldPattern) m =>
      w.2.capture w.1 (d.field w.1) = some m) fun w hw =>
        Option.isSome_iff_exists.mp ((FieldPattern.isSome_capture ..).trans (h w hw))
    exact ⟨⟨l⟩, capture_eq_some_iff.mpr hl⟩

/-- Patterns cover fields in the same places as the sources they are compiled from. -/
private theorem forall₂_covers_iff {sources : List String} {patterns : List FieldPattern}
    (h : List.Forall₂ (fun source p => FieldPattern.compile source = .ok p) sources patterns)
    {fields : List Field} (hl : fields.length = patterns.length) (d : Declaration) :
    List.Forall₂ (fun f source => FieldPattern.Covers source (d.field f)) fields sources ↔
      ∀ w ∈ fields.zip patterns, w.2.isMatch (d.field w.1) = true := by
  induction h generalizing fields with
  | nil =>
    cases List.length_eq_zero_iff.mp hl
    simp
  | cons hp _ ih =>
    cases fields with
    | nil => simp at hl
    | cons f fields =>
      simp only [List.forall₂_cons, FieldPattern.covers_iff hp, ih (Nat.succ.inj hl),
        List.zip_cons_cons, List.forall_mem_cons]

private theorem forall₂_captures {sources : List String} {patterns : List FieldPattern}
    (h : List.Forall₂ (fun source p => FieldPattern.compile source = .ok p) sources patterns)
    {fields : List Field} {d : Declaration} {found : List FieldMatch}
    (hm : List.Forall₂ (fun (w : Field × FieldPattern) m =>
      w.2.capture w.1 (d.field w.1) = some m) (fields.zip patterns) found) :
    List.Forall₂ (fun (w : Field × String) m =>
      ∃ p, FieldPattern.compile w.2 = .ok p ∧ p.capture w.1 (d.field w.1) = some m)
      (fields.zip sources) found := by
  induction h generalizing fields found with
  | nil => simpa using hm
  | cons hp _ ih =>
    cases fields with
    | nil => simpa using hm
    | cons f fields =>
      obtain ⟨m, found, hf, hrest, rfl⟩ := List.forall₂_cons_left_iff.mp hm
      exact .cons ⟨_, hp, hf⟩ (ih hrest)

namespace CompiledFrom

variable {r : Rule k} {e : Entry} {d : Declaration}

theorem isSome_capture_iff (h : r.CompiledFrom e) : (r.capture d).isSome ↔ e.Matches d := by
  rw [Rule.isSome_capture_iff, Entry.Matches, h.kind,
    forall₂_covers_iff h.patterns r.length_patterns.symm]

theorem captures (h : r.CompiledFrom e) {c : Context} (hc : r.capture d = some c) :
    e.Captures d c := by
  unfold Entry.Captures
  rw [h.kind]
  exact forall₂_captures h.patterns (capture_eq_some_iff.mp hc)

end CompiledFrom

end Rule

/-- The match in a table with `n` more rules in front. -/
def Match.shift (m : Match) (n : Nat) : Match := { m with index := n + m.index }

@[simp] theorem Match.shift_zero (m : Match) : m.shift 0 = m := by
  simp [shift]

theorem Match.shift_shift (m : Match) (a b : Nat) : (m.shift a).shift b = m.shift (b + a) := by
  simp [shift, Nat.add_assoc]

namespace Table

variable {k : Kind} {d : Declaration}

theorem compile_eq_ok_iff {es : List Entry} {t : Table k} :
    compile k es = .ok t ↔ List.Forall₂ (fun e r => Rule.CompiledFrom r e) es t.rules := by
  have hmap {rules : List (Rule k)} :
      (es.zipIdx.mapM fun w => Rule.compile k w.2 w.1) = .ok rules ↔
        List.Forall₂ (fun e r => Rule.CompiledFrom r e) es rules := by
    conv_rhs => rw [← List.zipIdx_map_fst 0 es]
    simp only [Except.mapM_eq_ok_iff, Rule.compile_eq_ok_iff, List.forall₂_map_left_iff]
  change ((es.zipIdx.mapM fun w => Rule.compile k w.2 w.1) >>= fun rules => pure ⟨rules⟩) =
    .ok t ↔ _
  simp only [Except.bind_eq_ok_iff, hmap]
  constructor
  · rintro ⟨rules, hr, h⟩
    cases h
    exact hr
  · intro h
    exact ⟨t.rules, h, rfl⟩

theorem compile_unique {es : List Entry} {t t' : Table k} (h : compile k es = .ok t)
    (h' : compile k es = .ok t') : t = t' := Except.ok.inj (h.symm.trans h')

theorem compile_append {es es' : List Entry} {t t' : Table k} (h : compile k es = .ok t)
    (h' : compile k es' = .ok t') : compile k (es ++ es') = .ok ⟨t.rules ++ t'.rules⟩ :=
  compile_eq_ok_iff.mpr (List.rel_append (compile_eq_ok_iff.mp h) (compile_eq_ok_iff.mp h'))

/-- Entries compile together if and only if nothing is wrong with any of them. -/
theorem exists_compile_iff {es : List Entry} :
    (∃ t, compile k es = .ok t) ↔ ∀ e ∈ es, e.Fits k := by
  simp only [compile_eq_ok_iff, ← Rule.exists_compiledFrom_iff (k := k)]
  constructor
  · rintro ⟨t, h⟩ e he
    obtain ⟨i, hi, rfl⟩ := List.mem_iff_getElem.mp he
    exact ⟨_, h.get hi (h.length_eq ▸ hi)⟩
  · intro h
    obtain ⟨rules, hr⟩ := List.exists_forall₂ h
    exact ⟨⟨rules⟩, hr⟩

/-- A match is with the rule at its place. -/
theorem exists_rule_of_firstMatch {t : Table k} {m : Match}
    (h : t.firstMatch d = some m) : ∃ r, t.rules[m.index]? = some r ∧
      r.capture d = some m.context ∧ m.action = r.action ∧ m.origin = r.origin := by
  obtain ⟨⟨r, i⟩, hi, hm⟩ := List.exists_of_findSome?_eq_some h
  obtain ⟨context, hc, rfl⟩ := Option.map_eq_some_iff.mp hm
  exact ⟨r, List.mem_zipIdx_iff_getElem?.mp hi, hc, rfl, rfl⟩

theorem firstMatch_append (rules rules' : List (Rule k)) :
    (⟨rules ++ rules'⟩ : Table k).firstMatch d =
      ((⟨rules⟩ : Table k).firstMatch d).or
        (((⟨rules'⟩ : Table k).firstMatch d).map (·.shift rules.length)) := by
  unfold firstMatch
  have hzip : rules'.zipIdx (0 + rules.length) =
      rules'.zipIdx.map fun w => (w.1, rules.length + w.2) := by
    rw [Nat.zero_add]
    exact List.zipIdx_eq_map_add
  rw [List.zipIdx_append, List.findSome?_append, hzip, List.findSome?_map, List.map_findSome?]
  congr 2
  funext w
  simp [Match.shift, Function.comp_def]

theorem firstMatch_cons (r : Rule k) (rules : List (Rule k)) :
    (⟨r :: rules⟩ : Table k).firstMatch d =
      ((r.capture d).map fun c => ⟨0, r.action, r.origin, c⟩).or
        (((⟨rules⟩ : Table k).firstMatch d).map (·.shift 1)) := by
  have h := firstMatch_append (d := d) [r] rules
  simpa [firstMatch] using h

section Entries

variable {es : List Entry} {rules : List (Rule k)}
  (h : List.Forall₂ (fun e r => Rule.CompiledFrom r e) es rules)
include h

theorem firstMatch_eq_none_iff :
    (⟨rules⟩ : Table k).firstMatch d = none ↔ ∀ e ∈ es, ¬ e.Matches d := by
  induction h with
  | nil => simp [firstMatch]
  | cons hr _ ih =>
    rw [firstMatch_cons, Option.or_eq_none_iff, Option.map_eq_none_iff, Option.map_eq_none_iff, ih,
      List.forall_mem_cons, ← hr.isSome_capture_iff, Option.not_isSome_iff_eq_none]

theorem firstMatch_eq_some {i : Nat} {e : Entry} (hf : Entry.FirstMatch es d i e) :
    ∃ c, e.Captures d c ∧
      (⟨rules⟩ : Table k).firstMatch d = some ⟨i, e.action, e.origin, c⟩ := by
  induction h generalizing i with
  | nil => simpa using hf.getElem
  | @cons e₀ r es rules hr _ ih =>
    rw [firstMatch_cons]
    cases i with
    | zero =>
      cases Option.some.inj (List.getElem?_cons_zero.symm.trans hf.getElem)
      obtain ⟨c, hc⟩ := Option.isSome_iff_exists.mp (hr.isSome_capture_iff.mpr hf.covers)
      exact ⟨c, hr.captures hc, by simp [hc, hr.action, hr.origin]⟩
    | succ i =>
      have hnone : r.capture d = none := by
        rw [← Option.not_isSome_iff_eq_none, hr.isSome_capture_iff]
        exact hf.first 0 e₀ (Nat.succ_pos i) List.getElem?_cons_zero
      obtain ⟨c, hc, hm⟩ := ih hf.tail
      exact ⟨c, hc, by simp [hnone, hm, Match.shift, Nat.add_comm]⟩

/-- The place of the rule that matches is that of the first entry that does. -/
theorem map_index_firstMatch_eq_some_iff {i : Nat} :
    ((⟨rules⟩ : Table k).firstMatch d).map (·.index) = some i ↔
      ∃ e, Entry.FirstMatch es d i e := by
  constructor
  · intro hi
    obtain ⟨m, hm, rfl⟩ := Option.map_eq_some_iff.mp hi
    have hsome : ∃ e ∈ es, e.Matches d := by
      by_contra hnone
      have := (firstMatch_eq_none_iff h).mpr fun e he hmatch => hnone ⟨e, he, hmatch⟩
      cases hm.symm.trans this
    obtain ⟨i, e, hf⟩ := Entry.exists_firstMatch hsome
    obtain ⟨c, -, hc⟩ := firstMatch_eq_some h hf
    cases hm.symm.trans hc
    exact ⟨e, hf⟩
  · rintro ⟨e, hf⟩
    obtain ⟨c, -, hc⟩ := firstMatch_eq_some h hf
    rw [hc]
    rfl

end Entries

/-- Tables one after the other. -/
def concat (ts : List (Table k)) : Table k := ⟨ts.flatMap (·.rules)⟩

theorem compile_flatMap {α : Type} {f : α → List Entry} {l : List α} {ts : List (Table k)}
    (h : List.Forall₂ (fun a t => compile k (f a) = .ok t) l ts) :
    compile k (l.flatMap f) = .ok (concat ts) := by
  induction h with
  | nil => exact compile_eq_ok_iff.mpr .nil
  | cons ha _ ih => exact compile_append ha ih

theorem firstMatch_concat_cons (t : Table k) (ts : List (Table k)) :
    (concat (t :: ts)).firstMatch d =
      (t.firstMatch d).or (((concat ts).firstMatch d).map (·.shift t.size)) :=
  firstMatch_append t.rules (concat ts).rules

theorem firstMatch_concat_eq_none_iff {ts : List (Table k)} :
    (concat ts).firstMatch d = none ↔ ∀ t ∈ ts, t.firstMatch d = none := by
  induction ts with
  | nil => simp [concat, firstMatch]
  | cons t ts ih =>
    rw [firstMatch_concat_cons, Option.or_eq_none_iff, Option.map_eq_none_iff, ih,
      List.forall_mem_cons]

/-- The first of the tables that has a match decides. -/
theorem firstMatch_concat {ts : List (Table k)} {i : Nat} {t : Table k} {m : Match}
    (hi : ts[i]? = some t) (hm : t.firstMatch d = some m)
    (hb : ∀ j t', j < i → ts[j]? = some t' → t'.firstMatch d = none) :
    (concat ts).firstMatch d = some (m.shift ((ts.take i).map size).sum) := by
  induction ts generalizing i with
  | nil => simp at hi
  | cons t₀ ts ih =>
    rw [firstMatch_concat_cons]
    cases i with
    | zero =>
      cases Option.some.inj (List.getElem?_cons_zero.symm.trans hi)
      simp [hm]
    | succ i =>
      have hnone := hb 0 t₀ (Nat.succ_pos i) List.getElem?_cons_zero
      have hrest := ih (i := i) (by simpa using hi) fun j t' hj ht' =>
        hb (j + 1) t' (Nat.succ_lt_succ hj) (by simpa using ht')
      simp [hnone, hrest, Match.shift_shift]

end Table

end DeclRules

import DeclRules.Proofs.Loader.Unfolding

/-! # The ruleset that a rule file makes

A rule of a file fits its kind if it names patterns for fields of the kind only, and none at all if
it gives its patterns in order (`RuleFile.Row.Fits`). `RuleFile.Row.Refused` lists what is wrong
with a rule that does not fit, in the order in which it is looked at.

A file makes a ruleset if and only if all its rules fit, whatever the parents are. Otherwise the
error is about the first rule that does not, by the order of the kinds and then by that of the file
(`RuleFile.toRuleset_eq_error_iff`). The own rules of the ruleset are the rules of the file
(`RuleFile.Lists`). The main statement is `RuleFile.toRuleset_converts`. -/

namespace DeclRules.RuleFile

namespace Row

variable {k : Kind} {i : Nat} {r : Row} {e : Entry} {fault : ConfigError}

/-- The rule gives a pattern for the field by name. -/
def Names (r : Row) (f : Field) : Prop := ∃ pattern, r.named f = some pattern

theorem isSome_named_iff {f : Field} : (r.named f).isSome ↔ r.Names f := Option.isSome_iff_exists

structure Fits (r : Row) (k : Kind) : Prop where
  fields : ∀ f, r.Names f → f ∈ k.fields
  apart : ∀ patterns, r.positional = some patterns → ∀ f, ¬ r.Names f

/-- What is wrong with the rule at `i` as one of kind `k`. -/
inductive Refused (k : Kind) (i : Nat) (r : Row) : ConfigError → Prop
  | foreign {before after : List Field} {f : Field} (hsplit : Field.all = before ++ f :: after)
    (hbefore : ∀ g ∈ before, r.Names g → g ∈ k.fields) (hnames : r.Names f) (h : f ∉ k.fields) :
    Refused k i r (.foreignField k i f)
  | mixed {patterns : List String} {f : Field} (hfields : ∀ g, r.Names g → g ∈ k.fields)
    (hnames : r.Names f) (h : r.positional = some patterns) : Refused k i r (.mixedPatterns k i)

/-- The entry of a rule that fits. -/
def made (r : Row) (k : Kind) : Entry where
  kind := k
  patterns := r.positional.getD (k.fields.map fun f => (r.named f).getD wildcard)
  action := r.action.action

theorem patterns_made (h : r.positional = none) :
    (r.made k).patterns = k.fields.map fun f => (r.named f).getD wildcard := by
  rw [made, h, Option.getD_none]

theorem foreign_iff {f : Field} :
    ((r.named f).isSome && !decide (f ∈ k.fields)) = true ↔ r.Names f ∧ f ∉ k.fields := by
  rw [Bool.and_eq_true, isSome_named_iff, Bool.not_eq_true', decide_eq_false_iff_not]

theorem foreign?_eq_some_iff {f : Field} : r.foreign? k = some f ↔
    ∃ before after, Field.all = before ++ f :: after ∧
      (∀ g ∈ before, r.Names g → g ∈ k.fields) ∧ r.Names f ∧ f ∉ k.fields := by
  simp only [foreign?, List.find?_eq_some_iff_append, foreign_iff, Bool.not_eq_true',
    ← Bool.not_eq_true, not_and, not_not]
  constructor
  · rintro ⟨hf, before, after, hsplit, hbefore⟩
    exact ⟨before, after, hsplit, hbefore, hf⟩
  · rintro ⟨before, after, hsplit, hbefore, hf⟩
    exact ⟨hf, before, after, hsplit, hbefore⟩

theorem foreign?_eq_none_iff : r.foreign? k = none ↔ ∀ f, r.Names f → f ∈ k.fields := by
  have hall (f : Field) : f ∈ Field.all := by cases f <;> decide
  simp only [foreign?, List.find?_eq_none, foreign_iff, hall, forall_const, not_and, not_not]

theorem any_named_iff (hfields : ∀ f, r.Names f → f ∈ k.fields) :
    (k.fields.any fun f => (r.named f).isSome) = true ↔ ∃ f, r.Names f := by
  simp only [List.any_eq_true, isSome_named_iff]
  exact exists_congr fun f => and_iff_right_of_imp (hfields f)

theorem Fits.entry (h : r.Fits k) (i : Nat) : r.entry k i = .ok (r.made k) := by
  have hforeign := foreign?_eq_none_iff.mpr h.fields
  unfold Row.entry made
  cases hp : r.positional with
  | none => rw [hforeign]; rfl
  | some patterns =>
    have hany : ¬ (k.fields.any fun f => (r.named f).isSome) = true := by
      rw [any_named_iff h.fields]
      rintro ⟨f, hf⟩
      exact h.apart patterns hp f hf
    rw [hforeign]
    exact if_neg hany

theorem Refused.entry (h : Refused k i r fault) : r.entry k i = .error fault := by
  unfold Row.entry
  cases h with
  | foreign hsplit hbefore hnames h =>
    rw [foreign?_eq_some_iff.mpr ⟨_, _, hsplit, hbefore, hnames, h⟩]
  | mixed hfields hnames h =>
    rw [foreign?_eq_none_iff.mpr hfields, h]
    exact if_pos ((any_named_iff hfields).mpr ⟨_, hnames⟩)

theorem fits_or_refused (r : Row) (k : Kind) (i : Nat) :
    r.Fits k ∨ ∃ fault, Refused k i r fault := by
  cases hforeign : r.foreign? k with
  | some f =>
    obtain ⟨before, after, hsplit, hbefore, hnames, hf⟩ := foreign?_eq_some_iff.mp hforeign
    exact .inr ⟨_, .foreign hsplit hbefore hnames hf⟩
  | none =>
    have hfields := foreign?_eq_none_iff.mp hforeign
    by_cases hmixed : r.positional.isSome ∧ ∃ f, r.Names f
    · obtain ⟨hp, f, hnames⟩ := hmixed
      obtain ⟨patterns, hp⟩ := Option.isSome_iff_exists.mp hp
      exact .inr ⟨_, .mixed hfields hnames hp⟩
    · refine .inl ⟨hfields, fun patterns hp f hf => hmixed ⟨?_, f, hf⟩⟩
      rw [hp]
      rfl

theorem entry_eq_ok_iff : r.entry k i = .ok e ↔ r.Fits k ∧ r.made k = e := by
  constructor
  · intro h
    obtain hfits | ⟨fault, hrefused⟩ := r.fits_or_refused k i
    · exact ⟨hfits, Except.ok.inj ((hfits.entry i).symm.trans h)⟩
    · cases hrefused.entry.symm.trans h
  · rintro ⟨hfits, rfl⟩
    exact hfits.entry i

theorem entry_eq_error_iff : r.entry k i = .error fault ↔ Refused k i r fault := by
  refine ⟨fun h => ?_, Refused.entry⟩
  obtain hfits | ⟨fault', hrefused⟩ := r.fits_or_refused k i
  · cases (hfits.entry i).symm.trans h
  · cases hrefused.entry.symm.trans h
    exact hrefused

theorem exists_entry_iff : (∃ e, r.entry k i = .ok e) ↔ r.Fits k := by
  simp only [entry_eq_ok_iff, exists_and_left, exists_eq', and_true]

/-- A rule that does not fit names a field of other kinds, or a field of its own beside patterns in
order. -/
theorem not_fits_iff : ¬ r.Fits k ↔ (∃ f, r.Names f ∧ f ∉ k.fields) ∨
    r.positional.isSome ∧ ∃ f ∈ k.fields, r.Names f := by
  constructor
  · intro h
    obtain hfits | ⟨fault, hrefused⟩ := r.fits_or_refused k 0
    · exact absurd hfits h
    · cases hrefused with
      | foreign _ _ hnames hf => exact .inl ⟨_, hnames, hf⟩
      | mixed hfields hnames hp => exact .inr ⟨hp ▸ rfl, _, hfields _ hnames, hnames⟩
  · rintro (⟨f, hnames, hf⟩ | ⟨hp, f, -, hnames⟩) hfits
    · exact hf (hfits.fields f hnames)
    · obtain ⟨patterns, hp⟩ := Option.isSome_iff_exists.mp hp
      exact hfits.apart patterns hp f hnames

/-- The patterns of a rule of kind `k`: those that it gives in order, as they are, or one at the
place of each field of the kind, which is the wildcard where the rule names none. -/
inductive Gives (r : Row) (k : Kind) : List String → Prop
  | positional {patterns : List String} (h : r.positional = some patterns) : Gives r k patterns
  | named {patterns : List String} (h : r.positional = none) (hlength : patterns.length = k.arity)
    (hnamed : ∀ (j : Nat) f p, k.fields[j]? = some f → r.named f = some p → patterns[j]? = some p)
    (hleft : ∀ (j : Nat) f, k.fields[j]? = some f → ¬ r.Names f → patterns[j]? = some ".*") :
    Gives r k patterns

theorem gives_made (r : Row) (k : Kind) : r.Gives k (r.made k).patterns := by
  cases hp : r.positional with
  | some patterns =>
    rw [made, hp]
    exact .positional hp
  | none =>
    rw [patterns_made hp]
    refine .named hp (List.length_map _) (fun j f p hf hnamed => ?_) fun j f hf hnames => ?_
    · rw [List.getElem?_map, hf, Option.map_some, hnamed, Option.getD_some]
    · have hnone : r.named f = none := by
        rwa [← isSome_named_iff, Option.not_isSome_iff_eq_none] at hnames
      rw [List.getElem?_map, hf, Option.map_some, hnone]
      rfl

end Row

variable {f : RuleFile} {k : Kind} {fault : ConfigError} {parents : List Ruleset} {R : Ruleset}

theorem entries_eq_ok_iff {es : List Entry} : f.entries k = .ok es ↔
    (∀ r ∈ f.rows k, r.Fits k) ∧ (f.rows k).map (·.made k) = es := by
  change ((f.rows k).zipIdx.mapM fun w => w.1.entry k w.2) = .ok es ↔ _
  conv_rhs => rw [← List.zipIdx_map_fst 0 (f.rows k)]
  simp only [Except.mapM_eq_ok_iff, Row.entry_eq_ok_iff, List.forall₂_and_left,
    List.forall_mem_map, List.map_map]
  refine and_congr_right fun _ => ?_
  rw [← List.forall₂_eq_eq_eq, List.forall₂_map_left_iff]
  rfl

theorem exists_entries_iff : (∃ es, f.entries k = .ok es) ↔ ∀ r ∈ f.rows k, r.Fits k := by
  simp only [entries_eq_ok_iff, exists_and_left, exists_eq', and_true]

theorem entries_eq_error_iff : f.entries k = .error fault ↔
    ∃ (i : Nat) (r : Row), (f.rows k)[i]? = some r ∧
      (∀ (j : Nat) r', j < i → (f.rows k)[j]? = some r' → r'.Fits k) ∧
      Row.Refused k i r fault := by
  change ((f.rows k).zipIdx.mapM fun w => w.1.entry k w.2) = .error fault ↔ _
  simp only [Except.mapM_zipIdx_eq_error_iff, Row.exists_entry_iff, Row.entry_eq_error_iff,
    Nat.zero_add]

/-- The rule at `i` is the first, in the order of kinds and of the file, that does not fit. -/
structure FirstFault (f : RuleFile) (k : Kind) (i : Nat) (r : Row) (fault : ConfigError) :
    Prop where
  kinds : ∃ before after, Kind.all = before ++ k :: after ∧
    ∀ k' ∈ before, ∀ r' ∈ f.rows k', r'.Fits k'
  rows : ∀ (j : Nat) r', j < i → (f.rows k)[j]? = some r' → r'.Fits k
  row : (f.rows k)[i]? = some r
  refused : Row.Refused k i r fault

/-- An error is that of the first rule that does not fit, whatever is extended. -/
theorem toRuleset_eq_error_iff :
    f.toRuleset parents = .error fault ↔ ∃ k i r, f.FirstFault k i r fault := by
  have hconvert : f.toRuleset parents = .error fault ↔
      PerKind.ofExcept f.entries = .error fault := by
    simp [toRuleset, Except.bind_eq_error_iff, pure, Except.pure]
  rw [hconvert, PerKind.ofExcept_eq_error_iff]
  simp only [exists_entries_iff, entries_eq_error_iff]
  constructor
  · rintro ⟨before, k, after, hall, hbefore, i, r, hr, hfirst, hrefused⟩
    exact ⟨k, i, r, ⟨before, after, hall, hbefore⟩, hfirst, hr, hrefused⟩
  · rintro ⟨k, i, r, ⟨before, after, hall, hbefore⟩, hfirst, hr, hrefused⟩
    exact ⟨before, k, after, hall, hbefore, i, r, hr, hfirst, hrefused⟩

/-- The own rules of kind `k` of the ruleset are those of the file. -/
structure Lists (f : RuleFile) (R : Ruleset) (k : Kind) : Prop where
  length : (R.localEntries k).length = (f.rows k).length
  entry : ∀ (i : Nat) r, (f.rows k)[i]? = some r → ∃ e, (R.localEntries k)[i]? = some e ∧
    e.kind = k ∧ r.Gives k e.patterns ∧ e.action = r.action.action ∧ e.origin = some f.name

theorem Describes.localEntries (h : f.Describes parents R) (k : Kind) :
    R.localEntries k = (f.rows k).map fun r => (r.made k).withOrigin f.name := by
  obtain ⟨-, hrules⟩ := entries_eq_ok_iff.mp (h.rules k)
  rw [Ruleset.localEntries, ← hrules, h.name, List.map_map]
  rfl

theorem Describes.lists (h : f.Describes parents R) (k : Kind) : f.Lists R k := by
  refine ⟨by rw [h.localEntries, List.length_map], fun i r hr => ?_⟩
  refine ⟨(r.made k).withOrigin f.name, ?_, rfl, r.gives_made k, rfl, rfl⟩
  rw [h.localEntries, List.getElem?_map, hr, Option.map_some]

/-- **What a rule file makes.** It makes a ruleset unless some rule names a field of other kinds,
or gives its patterns both in order and by name; the error is that of the first such rule, and does
not depend on the parents. The ruleset has the rules of the file as its own. -/
theorem toRuleset_converts (f : RuleFile) (parents : List Ruleset) :
    ((∃ fault, f.toRuleset parents = .error fault) ↔ ∃ k, ∃ r ∈ f.rows k,
      (∃ g, r.Names g ∧ g ∉ k.fields) ∨ r.positional.isSome ∧ ∃ g ∈ k.fields, r.Names g) ∧
    (∀ fault, f.toRuleset parents = .error fault ↔ ∃ k i r, f.FirstFault k i r fault) ∧
    (∀ fault parents', f.toRuleset parents = .error fault ↔
      f.toRuleset parents' = .error fault) ∧
    ∀ R, f.toRuleset parents = .ok R → R.name = f.name ∧ R.description = f.description ∧
      R.parents = parents ∧ ∀ k, f.Lists R k := by
  refine ⟨?_, fun fault => toRuleset_eq_error_iff, fun fault parents' => ?_, fun R h => ?_⟩
  · have hfails : (∃ fault, f.toRuleset parents = .error fault) ↔
        ¬ ∃ R, f.toRuleset parents = .ok R := by
      cases f.toRuleset parents <;> simp
    rw [hfails, exists_toRuleset_iff]
    simp only [exists_entries_iff, not_forall, Row.not_fits_iff, exists_prop]
  · rw [toRuleset_eq_error_iff, toRuleset_eq_error_iff]
  · have hdescribes := toRuleset_eq_ok_iff.mp h
    exact ⟨hdescribes.name, hdescribes.description, hdescribes.parents, hdescribes.lists⟩

section Typedefs

/-- A rule that names one field, and maybe gives patterns in order. -/
def Row.naming (f : Field) (positional : Option (List String)) : Row where
  named g := if g = f then some "a" else none
  positional := positional
  action := .discard

/-- A file with rules for typedefs. -/
def ofTypedefs (rows : List Row) : RuleFile where
  name := ⟨"--", by simp [isRulesetName, isNameChar]⟩
  parents := []
  description := none
  rows
    | .typedef => rows
    | _ => []

theorem Row.names_naming_iff {f g : Field} {positional : Option (List String)} :
    (Row.naming f positional).Names g ↔ g = f := by
  simp [Names, naming]

theorem Row.fits_naming {f : Field} {k : Kind} (h : f ∈ k.fields) : (Row.naming f none).Fits k where
  fields g hg := names_naming_iff.mp hg ▸ h
  apart _ hp := by cases hp

/-- The second rule names a field that typedefs lack, which counts before its being mixed. Without
it the first rule is the one rule of the ruleset. -/
theorem toRuleset_converts_ofTypedefs :
    (ofTypedefs [.naming .name none, .naming .access (some ["b"])]).toRuleset [] =
      .error (.foreignField .typedef 1 .access) ∧
    ∃ R, (ofTypedefs [.naming .name none]).toRuleset [] = .ok R ∧ R.name.text = "--" ∧
      (ofTypedefs [.naming .name none]).Lists R .typedef := by
  have hfits : (Row.naming .name none).Fits .typedef := Row.fits_naming (by decide)
  have hfault : (ofTypedefs [.naming .name none, .naming .access (some ["b"])]).FirstFault
      .typedef 1 (.naming .access (some ["b"])) (.foreignField .typedef 1 .access) := by
    refine ⟨⟨[.function, .container], [.forwardDeclaration], rfl, fun k hk r hr => ?_⟩,
      fun j r hj hr => ?_, rfl, ?_⟩
    · rcases List.mem_pair.mp hk with rfl | rfl <;> cases hr
    · cases Nat.lt_one_iff.mp hj
      cases hr
      exact hfits
    · have hsplit : Field.all = [.container, .name] ++ .access :: [.result, .parameters,
          .templateParameters, .declaration, .baseSpecifiers] := rfl
      refine .foreign hsplit (fun g hg hnames => ?_) (Row.names_naming_iff.mpr rfl) (by decide)
      cases Row.names_naming_iff.mp hnames
      exact absurd hg (by decide)
  obtain ⟨-, herror, -, -⟩ :=
    toRuleset_converts (ofTypedefs [.naming .name none, .naming .access (some ["b"])]) []
  obtain ⟨-, -, -, hok⟩ := toRuleset_converts (ofTypedefs [.naming .name none]) []
  obtain ⟨R, hR⟩ : ∃ R, (ofTypedefs [.naming .name none]).toRuleset [] = .ok R := by
    refine exists_toRuleset_iff.mpr fun k => exists_entries_iff.mpr fun r hr => ?_
    cases k with
    | typedef => exact List.mem_singleton.mp hr ▸ hfits
    | _ => cases hr
  obtain ⟨hname, -, -, hlists⟩ := hok R hR
  exact ⟨(herror _).mpr ⟨_, _, _, hfault⟩, R, hR, congrArg RulesetName.text hname, hlists .typedef⟩

end Typedefs

end DeclRules.RuleFile

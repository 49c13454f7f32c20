import DeclRules.Proofs.Keyed
import DeclRules.Proofs.Pattern.FullMatch
import Mathlib

/-! # What groups hold

A way of an expression on which the positions of groups are noted is a way on which the groups hold
the stretches that they cover (`Expr.Ways.held`). So what a compiled pattern captures from a field
is what the groups of its source hold on a way of the source alone over the whole field
(`FieldMatch.Faithful`, `FieldPattern.faithful_of_capture`): the anchors put around it shift no
group. -/

namespace DeclRules

namespace Pattern

open Pattern.Expr (Place Ways)

section Writes

/-- What some groups have come to hold in place of what they held before. -/
def Held.upon (new old : Held) : Held := fun i => (new i).or (old i)

theorem Held.upon_assoc (k k' k'' : Held) : k.upon (k'.upon k'') = (k.upon k').upon k'' := by
  funext i
  simp [upon, Option.or_assoc]

theorem Held.upon_self (new old : Held) : new.upon (new.upon old) = new.upon old := by
  rw [upon_assoc]
  congr 1
  funext i
  simp [upon]

theorem Held.none_upon (old : Held) : Held.upon (fun _ => none) old = old := by
  funext i
  simp [upon]

/-- On a way some groups come to hold something, whatever they held before. -/
def Writes (R : Spot Held → Spot Held → Prop) (s t : Spot Held) : Prop :=
  ∃ new : Held, t.kept = new.upon s.kept ∧ ∀ old, R ⟨s.place, old⟩ ⟨t.place, new.upon old⟩

theorem writes_eq (s : Spot Held) : Writes Eq s s :=
  ⟨fun _ => none, (Held.none_upon _).symm, fun old => by rw [Held.none_upon]⟩

theorem Writes.comp {R S : Spot Held → Spot Held → Prop} {s u t : Spot Held} (h : Writes R s u)
    (h' : Writes S u t) : Writes (Relation.Comp R S) s t := by
  obtain ⟨new, hkept, hways⟩ := h
  obtain ⟨new', hkept', hways'⟩ := h'
  refine ⟨new'.upon new, by rw [hkept', hkept, Held.upon_assoc], fun old => ?_⟩
  exact ⟨_, hways old, by rw [← Held.upon_assoc]; exact hways' _⟩

theorem Writes.mono {R S : Spot Held → Spot Held → Prop} (h : ∀ {s t}, R s t → S s t)
    {s t : Spot Held} (hw : Writes R s t) : Writes S s t := by
  obtain ⟨new, hkept, hways⟩ := hw
  exact ⟨new, hkept, fun old => h (hways old)⟩

theorem writes_over {R : Place → Place → Prop} {s t : Spot Held} (h : s.Over R t) :
    Writes (Spot.Over R) s t :=
  ⟨fun _ => none, by rw [Held.none_upon]; exact h.2, fun _ => ⟨h.1, Held.none_upon _⟩⟩

theorem writes_times {R : Spot Held → Spot Held → Prop} (h : ∀ {s t}, R s t → Writes R s t)
    {n : Nat} {s t : Spot Held} (hst : Times R n s t) : Writes (Times R n) s t := by
  induction hst with
  | zero => exact (writes_eq _).mono fun h => Times.zero_iff.mpr h
  | succ hpq _ ih => exact ((h hpq).comp ih).mono fun h => Times.succ_iff.mpr h

theorem Expr.Ways.writes {e : Expr} {s t : Spot Held} (h : e.Ways .held s t) :
    Writes (e.Ways .held) s t := by
  induction e generalizing s t with
  | empty => exact h ▸ writes_eq s
  | chars set => exact writes_over h
  | look l => exact writes_over h
  | «repeat» min max greedy e ih =>
    obtain ⟨n, hn, hst⟩ := h
    exact (writes_times ih hst).mono fun h => ⟨n, hn, h⟩
  | group i name e ih =>
    obtain ⟨u, hu, rfl⟩ := h
    obtain ⟨new, hkept, hways⟩ := ih hu
    refine ⟨fun j => if j = i then some (s.place.stretch u.place) else new j, ?_, fun old => ?_⟩
    · funext j
      simp only [Notes.held, Held.upon, hkept]
      split <;> rfl
    · refine ⟨_, hways old, ?_⟩
      have hkept : Held.upon (fun j => if j = i then some (s.place.stretch u.place) else new j) old =
          Notes.held.leave i s.place u.place (new.upon old) := by
        funext j
        simp only [Notes.held, Held.upon]
        split <;> rfl
      rw [hkept]
  | seq e f ihe ihf =>
    obtain ⟨u, hu, ht⟩ := h
    exact (ihe hu).comp (ihf ht)
  | alt e f ihe ihf =>
    rcases h with h | h
    · exact (ihe h).mono .inl
    · exact (ihf h).mono .inr

/-- Groups that have been gone over without a character hold the same when they are gone over
again. -/
theorem Notes.settled_held : Notes.held.Settled := fun {e s t} hb h => by
  obtain ⟨new, hkept, hways⟩ := h.writes
  have hplace := Expr.place_eq_of_isBlank hb h
  have hagain := hways t.kept
  rw [hplace, hkept, Held.upon_self, ← hkept] at hagain
  exact hagain

end Writes

section Traces

/-- The stretches between the positions noted. -/
def Trace.held (text : List Char) (t : Trace) : Held := fun i =>
  (t.span? i).map fun span => (text.drop span.1).take (span.2 - span.1)

variable {text : List Char} {e : Expr} {opened : List Nat}

theorem lookup_cons_of_ne {i j n : Nat} (h : i ≠ j) (t : Trace) :
    List.lookup i ((j, n) :: t) = List.lookup i t := by
  rw [List.lookup_cons, beq_false_of_ne h]

/-- The groups not in an expression keep their positions. -/
theorem Expr.Ways.lookup {length i : Nat} {s t : Spot Trace}
    (h : e.Ways (.traces length) s t) (hi : ∀ g ∈ e.groups, g.1 ≠ i) :
    t.kept.lookup (2 * i) = s.kept.lookup (2 * i) := by
  induction e generalizing s t with
  | empty => exact congrArg (fun u : Spot Trace => u.kept.lookup (2 * i)) (Eq.symm h)
  | chars set => rw [h.2]
  | look l => rw [h.2]
  | «repeat» min max greedy e ih =>
    obtain ⟨n, -, hst⟩ := h
    induction hst with
    | zero => rfl
    | succ hpq _ hrest => exact hrest.trans (ih hpq hi)
  | group j name e ih =>
    obtain ⟨u, hu, rfl⟩ := h
    obtain ⟨hj, hi⟩ := List.forall_mem_cons.mp hi
    have hbody := ih hu hi
    simp only [Notes.traces] at hbody ⊢
    rw [lookup_cons_of_ne (by omega), hbody, lookup_cons_of_ne (by omega)]
  | seq e f ihe ihf =>
    obtain ⟨u, hu, ht⟩ := h
    obtain ⟨he, hf⟩ := List.forall_mem_append.mp hi
    exact (ihf ht hf).trans (ihe hu he)
  | alt e f ihe ihf =>
    obtain ⟨he, hf⟩ := List.forall_mem_append.mp hi
    rcases h with h | h
    · exact ihe h he
    · exact ihf h hf

/-- Groups hold what lies between their positions in a text, but for those that are open. -/
structure Tells (text : List Char) (opened : List Nat) (s : Spot Trace) (s' : Spot Held) :
    Prop where
  place : s'.place = s.place
  suffix : s.place.rest <:+ text
  kept : ∀ i ∉ opened, s'.kept i = s.kept.held text i

theorem Tells.step {R : Place → Place → Prop} {s t : Spot Trace} {s' : Spot Held}
    (h : Tells text opened s s') (hst : s.Over R t) (hsuffix : t.place.rest <:+ s.place.rest) :
    ∃ t', s'.Over R t' ∧ Tells text opened t t' := by
  refine ⟨⟨t.place, s'.kept⟩, ⟨?_, rfl⟩, rfl, hsuffix.trans h.suffix, ?_⟩
  · rw [h.place]
    exact hst.1
  · rw [hst.2]
    exact h.kept

theorem held_cons_of_ne {i slot n : Nat} (h : 2 * i ≠ slot) (h' : 2 * i + 1 ≠ slot) (t : Trace) :
    Trace.held text ((slot, n) :: t) i = t.held text i := by
  simp only [Trace.held, Trace.span?, lookup_cons_of_ne h, lookup_cons_of_ne h']

/-- The stretch between two places, by their positions. -/
theorem take_drop_eq_stretch {p q : Place} (hp : p.rest <:+ text) (hq : q.rest <:+ p.rest) :
    (text.drop (text.length - p.rest.length)).take
      (text.length - q.rest.length - (text.length - p.rest.length)) = p.stretch q := by
  have hple := hp.length_le
  have hqle := hq.length_le
  rw [← List.suffix_iff_eq_drop.mp hp, Place.stretch]
  congr 1
  omega

/-- **Positions tell what groups hold**: where an expression has a way on which they are noted, it
has one on which the groups hold what lies between them. -/
theorem Expr.Ways.held (he : e.Proper) {s t : Spot Trace} {s' : Spot Held}
    (h : e.Ways (.traces text.length) s t) (hopened : ∀ g ∈ e.groups, g.1 ∉ opened)
    (hs : Tells text opened s s') : ∃ t', e.Ways .held s' t' ∧ Tells text opened t t' := by
  induction e generalizing s t s' opened with
  | empty => exact ⟨s', rfl, h ▸ hs⟩
  | chars set => exact hs.step h (Ways.suffix (e := .chars set) h)
  | look l => exact hs.step h (Ways.suffix (e := .look l) h)
  | «repeat» min max greedy e ih =>
    exact Repeated.follow (R := e.Ways (.traces text.length)) (fun hpq hp => ih he.2 hpq hopened hp)
      h hs
  | group i name e ih =>
    obtain ⟨u, hu, rfl⟩ := h
    obtain ⟨hi, hbody⟩ := List.forall_mem_cons.mp hopened
    obtain ⟨place, kept⟩ := s'
    obtain ⟨rfl, hsuffix, hkept⟩ := hs
    -- Inside the group its own positions tell nothing yet.
    have hinside : Tells text (i :: opened)
        ⟨s.place, (2 * i, text.length - s.place.rest.length) :: s.kept⟩ ⟨s.place, kept⟩ := by
      refine ⟨rfl, hsuffix, fun j hj => ?_⟩
      obtain ⟨hne, hj⟩ := not_or.mp (mt List.mem_cons.mpr hj)
      rw [held_cons_of_ne (by omega) (by omega)]
      exact hkept j hj
    have hbody : ∀ g ∈ e.groups, g.1 ∉ i :: opened := fun g hg =>
      mt List.mem_cons.mp (not_or.mpr ⟨he.1 g hg, hbody g hg⟩)
    obtain ⟨u', hu', hplace, hsuffix', hkept'⟩ := ih he.2 hu hbody hinside
    refine ⟨_, ⟨u', hu', rfl⟩, hplace, hsuffix', fun j hj => ?_⟩
    simp only [Notes.held, Notes.traces, hplace]
    split
    · rename_i hji
      subst hji
      have hstart := hu.lookup he.1
      simp only [Notes.traces, List.lookup_cons_self] at hstart
      have hslots : 2 * j ≠ 2 * j + 1 := by omega
      simp only [Trace.held, Trace.span?, List.lookup_cons_self, lookup_cons_of_ne hslots, hstart,
        Option.bind_eq_bind, Option.bind_some, Option.pure_def, Option.map_some]
      rw [take_drop_eq_stretch hsuffix hu.suffix]
    · rename_i hji
      rw [held_cons_of_ne (by omega) (by omega)]
      exact hkept' j (mt List.mem_cons.mp (not_or.mpr ⟨hji, hj⟩))
  | seq e f ihe ihf =>
    obtain ⟨u, hu, ht⟩ := h
    obtain ⟨hopenedE, hopenedF⟩ := List.forall_mem_append.mp hopened
    obtain ⟨u', hu', hs⟩ := ihe he.1 hu hopenedE hs
    obtain ⟨t', ht', hs⟩ := ihf he.2 ht hopenedF hs
    exact ⟨t', ⟨u', hu', ht'⟩, hs⟩
  | alt e f ihe ihf =>
    obtain ⟨hopenedE, hopenedF⟩ := List.forall_mem_append.mp hopened
    rcases h with h | h
    · exact (ihe he.1 h hopenedE hs).imp fun _ ht => ht.imp_left .inl
    · exact (ihf he.2 h hopenedF hs).imp fun _ ht => ht.imp_left .inr

end Traces

section Groups

variable {a : Ast} {e : Expr} {text : List Char} {g : Nat × Option String}

theorem Ast.Numbered.unique (h : a.Numbered) {n n' : Option String} {i : Nat}
    (hn : (i, n) ∈ a.groups) (hn' : (i, n') ∈ a.groups) : n = n' := by
  have hnodup : (a.groups.map (·.1)).Nodup := h.numbers ▸ List.nodup_range'
  exact (Prod.mk.inj (List.inj_on_of_nodup_map hnodup hn hn' rfl)).2

theorem Ast.Numbered.unique_name (h : a.Numbered) {name : String} {i j : Nat}
    (hi : (i, some name) ∈ a.groups) (hj : (j, some name) ∈ a.groups) : i = j := by
  by_contra hne
  have : Std.Symm fun g g' : Nat × Option String => ∀ n, g.2 = some n → ∀ n', g'.2 = some n' →
      n ≠ n' := ⟨fun _ _ h n hn n' hn' => (h n' hn' n hn).symm⟩
  have hpairwise := List.pairwise_filterMap.mp h.names
  exact hpairwise.forall hi hj (fun heq => hne (congrArg Prod.fst heq)) name rfl name rfl rfl

theorem Ast.Numbered.pos (h : a.Numbered) (hg : g ∈ a.groups) : 0 < g.1 := by
  have hmem : g.1 ∈ a.groups.map (·.1) := List.mem_map_of_mem hg
  rw [h.numbers, List.mem_range'_1] at hmem
  omega

/-- Anchors add no groups. -/
theorem Ast.liveGroups_wrapped (a : Ast) : a.wrapped.liveGroups = a.liveGroups := by
  simp [Ast.wrapped, Ast.liveGroups, Ast.liveGroupsAll]

/-- A way of a pattern between its anchors is one of the pattern alone. -/
theorem Ast.Ways.of_wrapped {κ : Type} {N : Notes κ} {s t : Spot κ}
    (h : a.wrapped.Ways N {} s t) : a.Ways N {} s t := by
  obtain ⟨_, hstart, u, ha, _, hend, rfl⟩ := h
  rw [hstart.eq_of_at, ← hend.eq_of_at]
  exact ha

theorem Expr.lt_groupCount_iff {i : Nat} :
    i < e.groupCount ↔ i = 0 ∨ ∃ g ∈ e.groups, i ≤ g.1 := by
  have hfold (l : List (Nat × Option String)) (n : Nat) :
      i < l.foldl (fun n g => max n (g.1 + 1)) n ↔ i < n ∨ ∃ g ∈ l, i ≤ g.1 := by
    induction l generalizing n with
    | nil => simp
    | cons g l ih =>
      rw [List.foldl_cons, ih, List.exists_mem_cons_iff, lt_max_iff, Nat.lt_succ_iff, or_assoc]
  rw [groupCount, hfold, Nat.lt_one_iff]

theorem Expr.lt_groupCount_of_mem (h : g ∈ e.groups) : g.1 < e.groupCount :=
  lt_groupCount_iff.mpr (.inr ⟨g, h, Nat.le_refl _⟩)

/-- A group that holds something is one of the expression. -/
theorem Expr.exists_group_of_held {p q : Place} {i : Nat} {w : List Char} {t : Trace}
    (h : e.Ways (.traces text.length) ⟨p, []⟩ ⟨q, t⟩) (hi : t.held text i = some w) :
    ∃ n, (i, n) ∈ e.groups := by
  by_contra hnone
  have hlookup := h.lookup (i := i) fun g hg hgi => hnone ⟨g.2, hgi ▸ hg⟩
  obtain ⟨span, hspan, -⟩ := Option.map_eq_some_iff.mp hi
  obtain ⟨start, hstart, -⟩ := Option.bind_eq_some_iff.mp hspan
  rw [hlookup] at hstart
  cases hstart

end Groups

end Pattern

open Pattern

/-- What was captured from a field is told by the tree of the pattern. -/
structure FieldMatch.Faithful (a : Ast) (field : Field) (value : String) (m : FieldMatch) :
    Prop where
  field_eq : m.field = field
  value_eq : m.value = value
  whole : m.groups[0]? = some (some value)
  /-- There is an entry for every number up to that of the last group. -/
  entries : ∀ i, i < m.groups.length ↔ i = 0 ∨ ∃ g ∈ a.liveGroups, i ≤ g.1
  /-- The entries are what the groups hold on a way over the whole field. -/
  held : ∃ before held, a.Ways .held {} ⟨⟨none, value.toList⟩, fun _ => none⟩ ⟨⟨before, []⟩, held⟩ ∧
    ∀ (i : Nat) (text : String), 0 < i →
      (m.groups[i]? = some (some text) ↔ held i = some text.toList)
  stretch : ∀ (i : Nat) (text : String), m.groups[i]? = some (some text) → text.toList <:+: value.toList
  named : ∀ name text, m.named.get? name = some text ↔
    ∃ i, (i, some name) ∈ a.groups ∧ m.groups[i]? = some (some text)

namespace FieldPattern

variable {source : String} {p : FieldPattern} {a : Ast} {field : Field} {value : String}
  {m : FieldMatch}

theorem exists_tree (h : compile source = .ok p) : ∃ a, parse source.toList = some a ∧
    a.Numbered ∧ Renders {} a.wrapped p.expr {} ∧ p.program = p.expr.program := by
  obtain ⟨e, e', he, he', rfl⟩ := compile_eq_ok_iff.mp h
  obtain ⟨a, f, ha, helab, rfl, ha'⟩ := exists_of_expr_wrap he he'
  have htree := (parse_eq_some_iff.mp ha).1
  exact ⟨a, ha, numbered_of_tree? htree,
    Ast.renders (ordered_of_tree? htree).wrapped (by rw [Ast.elaborate_wrapped, helab]; rfl), rfl⟩

/-- The names of groups, each with the text of its group. -/
def namedTexts (groups : List (Nat × Option String)) (text : List Char) (t : Trace) :
    List (String × String) :=
  groups.filterMap fun g => do return (← g.2, ← groupText text t g.1)

theorem mem_namedTexts_iff {groups : List (Nat × Option String)} {text : List Char} {t : Trace}
    {name w : String} : (name, w) ∈ namedTexts groups text t ↔
      ∃ i, (i, some name) ∈ groups ∧ groupText text t i = some w := by
  rw [namedTexts, List.mem_filterMap]
  constructor
  · rintro ⟨⟨i, n⟩, hg, h⟩
    obtain ⟨name', hn, h⟩ := Option.bind_eq_some_iff.mp h
    obtain ⟨w', hw, h⟩ := Option.bind_eq_some_iff.mp h
    cases h
    cases hn
    exact ⟨i, hg, hw⟩
  · rintro ⟨i, hg, hw⟩
    exact ⟨(i, some name), hg, by simp [hw]⟩

/-- Names of a tree are those of one group each, so each has the text of its group. -/
theorem get?_namedTexts_iff (ha : a.Numbered) {groups : List (Nat × Option String)}
    (hgroups : ∀ g ∈ groups, g ∈ a.groups) {text : List Char} {t : Trace} {name w : String} :
    (Keyed.ofList (namedTexts groups text t)).get? name = some w ↔
      ∃ i, (i, some name) ∈ groups ∧ groupText text t i = some w := by
  have hunique (w' : String) (h : (name, w) ∈ namedTexts groups text t)
      (h' : (name, w') ∈ namedTexts groups text t) : w' = w := by
    obtain ⟨i, hi, hw⟩ := mem_namedTexts_iff.mp h
    obtain ⟨j, hj, hw'⟩ := mem_namedTexts_iff.mp h'
    cases ha.unique_name (hgroups _ hi) (hgroups _ hj)
    exact Option.some.inj (hw'.symm.trans hw)
  rw [Keyed.get?_ofList_iff hunique, mem_namedTexts_iff]

theorem capture_eq_some_iff : p.capture field value = some m ↔
    ∃ t, p.trace? value.toList = some t ∧ m = ⟨field, value,
      (List.range p.expr.groupCount).map (groupText value.toList t),
      .ofList (namedTexts p.expr.groups value.toList t)⟩ := by
  rw [capture, Option.map_eq_some_iff]
  exact exists_congr fun t => and_congr_right fun _ => eq_comm

theorem groupText_eq_some_iff {text : List Char} {t : Trace} {i : Nat} {w : String} (hi : 0 < i) :
    groupText text t i = some w ↔ t.held text i = some w.toList := by
  rw [groupText, if_neg (Nat.ne_of_gt hi), Trace.held, Option.map_eq_some_iff,
    Option.map_eq_some_iff]
  refine exists_congr fun span => and_congr_right fun _ => ?_
  rw [slice, ← String.toList_inj, String.toList_ofList]

theorem getElem?_groupTexts_iff {text : List Char} {t : Trace} {n i : Nat} {w : String} :
    ((List.range n).map (groupText text t))[i]? = some (some w) ↔
      i < n ∧ groupText text t i = some w := by
  rw [List.getElem?_map, Option.map_eq_some_iff]
  simp [List.getElem?_eq_some_iff]

theorem isInfix_of_groupText {text : List Char} {t : Trace} {i : Nat} {w : String}
    (h : groupText text t i = some w) : w.toList <:+: text := by
  rcases Nat.eq_zero_or_pos i with rfl | hi
  · cases Option.some.inj h
    rw [String.toList_ofList]
  · obtain ⟨span, -, hw⟩ := Option.map_eq_some_iff.mp ((groupText_eq_some_iff hi).mp h)
    rw [← hw]
    exact (List.take_prefix _ _).isInfix.trans (List.drop_suffix _ _).isInfix

/-- What is captured is told by the tree of the source alone. -/
theorem faithful_of_capture (h : compile source = .ok p) (ha : parse source.toList = some a)
    (hm : p.capture field value = some m) : m.Faithful a field value := by
  obtain ⟨a', ha', hnumbered, hrenders, hprogram⟩ := exists_tree h
  cases ha.symm.trans ha'
  obtain ⟨t, ht, rfl⟩ := capture_eq_some_iff.mp hm
  have htrace : p.expr.trace? value.toList = some t := by
    rw [Expr.trace?, ← hprogram]
    exact ht
  obtain ⟨before, hways⟩ := Expr.ways_of_trace? hrenders.proper htrace
  have hgroups (g : Nat × Option String) : g ∈ p.expr.groups ↔ g ∈ a.liveGroups := by
    rw [hrenders.groups, Ast.liveGroups_wrapped]
  have htree (g : Nat × Option String) (hg : g ∈ p.expr.groups) : g ∈ a.groups :=
    Ast.mem_groups_of_live ((hgroups g).mp hg)
  -- The group of an entry beside that of the whole match is one of the expression.
  have hgroup {i : Nat} {w : List Char} (hi : t.held value.toList i = some w) :
      ∃ n, (i, n) ∈ p.expr.groups := Expr.exists_group_of_held hways hi
  refine ⟨rfl, rfl, ?_, fun i => ?_, ?_, fun i w hw => ?_, fun name w => ?_⟩
  · exact getElem?_groupTexts_iff.mpr
      ⟨Expr.lt_groupCount_iff.mpr (.inl rfl), by simp [groupText]⟩
  · rw [List.length_map, List.length_range, Expr.lt_groupCount_iff]
    simp only [hgroups]
  · have hstart : Tells value.toList [] ⟨⟨none, value.toList⟩, []⟩
        ⟨⟨none, value.toList⟩, fun _ => none⟩ := ⟨rfl, List.suffix_rfl, fun _ _ => rfl⟩
    obtain ⟨⟨place, held⟩, hheld, rfl, -, hkept⟩ :=
      hways.held hrenders.proper (fun _ _ => List.not_mem_nil) hstart
    refine ⟨before, held, (hrenders.sound Notes.settled_held hheld).of_wrapped, fun i w hi => ?_⟩
    have hsame : held i = t.held value.toList i := hkept i List.not_mem_nil
    rw [getElem?_groupTexts_iff, groupText_eq_some_iff hi, hsame]
    refine and_iff_right_of_imp fun hw => ?_
    obtain ⟨n, hn⟩ := hgroup hw
    exact Expr.lt_groupCount_of_mem hn
  · exact isInfix_of_groupText (getElem?_groupTexts_iff.mp hw).2
  · rw [get?_namedTexts_iff hnumbered htree]
    simp only [getElem?_groupTexts_iff]
    constructor
    · rintro ⟨i, hi, hw⟩
      exact ⟨i, htree _ hi, Expr.lt_groupCount_of_mem hi, hw⟩
    · rintro ⟨i, hi, -, hw⟩
      obtain ⟨n, hn⟩ := hgroup ((groupText_eq_some_iff (hnumbered.pos hi)).mp hw)
      cases hnumbered.unique (htree _ hn) hi
      exact ⟨i, hn, hw⟩

end FieldPattern

end DeclRules

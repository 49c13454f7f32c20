import DeclRules.Proofs.Pattern.Meaning
import DeclRules.Proofs.Pattern.Token
import Mathlib.Data.List.Nodup

/-! # The syntax tree of a text

`tree?` is the syntax tree of a pattern where nesting is not limited; `parse` gives the same up to
the limit (`parse_eq_some_iff`). What every token keeps holds of the state behind a whole text
(`run_induction`). In this way the bounds of all repetitions are in order (`ordered_of_tree?`), and
the groups are numbered as they open, with names that differ (`numbered_of_tree?`). -/

namespace DeclRules.Pattern

/-- The syntax tree of a pattern, however deep. -/
def tree? (s : List Char) : Option Ast :=
  (run s.length {} s).bind fun st => if st.opened.isEmpty then some st.level.close else none

theorem parse_eq_some_iff {s : List Char} {a : Ast} :
    parse s = some a ↔ tree? s = some a ∧ a.depth ≤ maxDepth := by
  unfold parse tree?
  cases run s.length {} s with
  | none => simp
  | some st =>
    simp only [Option.bind_eq_bind, Option.bind_some, Bool.and_eq_true, decide_eq_true_eq,
      Option.ite_none_right_eq_some, Option.some.injEq]
    constructor
    · rintro ⟨⟨hopened, hdepth⟩, rfl⟩
      exact ⟨⟨hopened, rfl⟩, hdepth⟩
    · rintro ⟨⟨hopened, rfl⟩, hdepth⟩
      exact ⟨⟨hopened, hdepth⟩, rfl⟩

section Run

variable {n : Nat} {st st' : State} {s r : List Char} {c : Char}

theorem run_nil (h : skip st.verbose s = []) : run n st s = some st := by
  cases n <;> simp [run, h]

/-- A run takes a token, applies it and goes on with what is left. -/
theorem run_cons (h : skip st.verbose s = c :: r) :
    run (n + 1) st s = (Token.read st.verbose c r).bind fun p =>
      (p.1.apply st).bind fun st => run n st p.2 := by
  have hstep : run (n + 1) st s = (step st c r).bind fun p => run n p.1 p.2 := by
    conv => lhs; unfold run; rw [h]
    dsimp only
    cases step st c r <;> rfl
  rw [hstep, step_eq, Option.bind_assoc]
  congr 1
  funext p
  cases p.1.apply st <;> rfl

/-- A run ends behind the text, or it takes a token and goes on. -/
theorem run_cases (h : run n st s = some st') : skip st.verbose s = [] ∧ st = st' ∨
    ∃ m c r k r' st₁, n = m + 1 ∧ skip st.verbose s = c :: r ∧
      Token.read st.verbose c r = some (k, r') ∧ k.apply st = some st₁ ∧
      run m st₁ r' = some st' := by
  cases hs : skip st.verbose s with
  | nil => exact .inl ⟨rfl, Option.some.inj ((run_nil hs).symm.trans h)⟩
  | cons c r =>
    cases n with
    | zero => simp [run, hs] at h
    | succ n =>
      rw [run_cons hs] at h
      obtain ⟨⟨k, r'⟩, hk, h⟩ := Option.bind_eq_some_iff.mp h
      obtain ⟨st₁, hst₁, h⟩ := Option.bind_eq_some_iff.mp h
      exact .inr ⟨n, c, r, k, r', st₁, rfl, rfl, hk, hst₁, h⟩

/-- What every token keeps, a text keeps. -/
theorem run_induction {P : State → Prop}
    (hP : ∀ {st st' : State} {c r k r'}, Token.read st.verbose c r = some (k, r') →
      k.apply st = some st' → P st → P st')
    (h : run n st s = some st') (hst : P st) : P st' := by
  induction n generalizing st s with
  | zero =>
    obtain ⟨-, rfl⟩ | ⟨_, _, _, _, _, _, h0, -⟩ := run_cases h
    · exact hst
    · cases h0
  | succ n ih =>
    obtain ⟨-, rfl⟩ | ⟨_, c, r, k, r', st₁, ⟨⟩, -, hk, hst₁, h⟩ := run_cases h
    · exact hst
    · exact ih h (hP hk hst₁ hst)

end Run

section Ordered

/-- The tree has no parts. -/
def Ast.IsLeaf : Ast → Prop
  | atom _ | dot | assertion _ | bracket _ _ => True
  | _ => False

theorem Ast.IsLeaf.ordered {a : Ast} (h : a.IsLeaf) : a.Ordered := by
  cases a with
  | atom | dot | assertion | bracket => trivial
  | _ => cases h

theorem Ast.IsLeaf.groups {a : Ast} (h : a.IsLeaf) : a.groups = [] := by
  cases a with
  | atom | dot | assertion | bracket => rfl
  | _ => cases h

/-- A part that a token adds is a leaf, and bounds are in order. -/
def Token.Ordered : Token → Prop
  | part a => a.IsLeaf
  | repetition min max _ => ∀ m ∈ max, min ≤ m
  | _ => True

theorem ordered_of_readBounds {verbose : Bool} {s r : List Char} {b : Nat × Option Nat}
    (h : readBounds verbose s = some (b, r)) : ∀ m ∈ b.2, b.1 ≤ m := by
  rw [readBounds_eq] at h
  obtain ⟨⟨n, u⟩, -, h⟩ := Option.bind_eq_some_iff.mp h
  unfold readBehindLower at h
  split at h
  · cases h
    exact fun m hm => Nat.le_of_eq (Option.some.inj hm)
  · split at h
    · unfold readUpper at h
      split at h
      · cases h
        exact fun m hm => by cases hm
      · obtain ⟨⟨m, v⟩, -, h⟩ := Option.bind_eq_some_iff.mp h
        unfold readClosing at h
        split at h
        · split at h
          · rename_i hle
            cases h
            exact fun m' hm => Option.some.inj hm ▸ hle
          · cases h
        · cases h
    · cases h

theorem Token.ordered_of_readGroup {s r : List Char} {k : Token}
    (h : Token.readGroup s = some (k, r)) : k.Ordered := by
  have hnamed {s : List Char} (h : Token.readNamed s = some (k, r)) : k.Ordered := by
    obtain ⟨p, -, hp⟩ := Option.map_eq_some_iff.mp h
    cases hp
    trivial
  have hsettings {s : List Char} (h : Token.readSettings s = some (k, r)) : k.Ordered := by
    obtain ⟨p, -, hp⟩ := Option.bind_eq_some_iff.mp h
    split at hp
    · cases hp
      trivial
    · split at hp
      · cases hp
      · cases hp
        trivial
  unfold Token.readGroup at h
  split at h
  · unfold Token.readMarked at h
    split at h
    case h_5 | h_6 => exact hnamed h
    case h_7 => exact hsettings h
    all_goals cases h
  · cases h
    trivial

theorem Token.ordered_of_read {verbose : Bool} {c : Char} {s r : List Char} {k : Token}
    (h : Token.read verbose c s = some (k, r)) : k.Ordered := by
  unfold Token.read at h
  split at h
  case h_1 => exact ordered_of_readGroup h
  case h_4 =>
    obtain ⟨p, -, hp⟩ := Option.map_eq_some_iff.mp h
    cases hp
    trivial
  case h_5 | h_6 | h_7 =>
    cases h
    simp [Token.Ordered]
  case h_8 =>
    obtain ⟨p, hp, hk⟩ := Option.map_eq_some_iff.mp h
    cases hk
    exact ordered_of_readBounds hp
  case h_9 =>
    obtain ⟨⟨e, _⟩, -, hp⟩ := Option.map_eq_some_iff.mp h
    cases hp
    cases e <;> trivial
  all_goals
    cases h
    trivial

section Groups

/-- The groups of a level so far, in the order in which they open. -/
def Level.groups (l : Level) : List (Nat × Option String) :=
  Ast.groupsAll l.branches.reverse ++ Ast.groupsAll l.items.reverse

/-- The group itself, if it captures. -/
def GroupKind.groups : GroupKind → List (Nat × Option String)
  | capture i n => [(i, n)]
  | plain _ => []

/-- The groups up to the inside of the open ones, of which the innermost comes first. -/
def openedGroups : List OpenGroup → List (Nat × Option String)
  | [] => []
  | g :: opened => openedGroups opened ++ g.outside.groups ++ g.kind.groups

/-- All groups so far. -/
def State.groups (st : State) : List (Nat × Option String) :=
  openedGroups st.opened ++ st.level.groups

theorem Ast.groupsAll_append (l m : List Ast) :
    Ast.groupsAll (l ++ m) = Ast.groupsAll l ++ Ast.groupsAll m := by
  induction l with
  | nil => rfl
  | cons a l ih => rw [List.cons_append, Ast.groupsAll, ih, Ast.groupsAll, List.append_assoc]

theorem Ast.groupsAll_singleton (a : Ast) : Ast.groupsAll [a] = a.groups := List.append_nil _

theorem Ast.groups_ofItems (l : List Ast) : (Ast.ofItems l).groups = Ast.groupsAll l := by
  rcases l with _ | ⟨a, _ | ⟨b, l⟩⟩
  · rfl
  · exact (Ast.groupsAll_singleton a).symm
  · rfl

theorem Ast.groups_group (kind : GroupKind) (body : Ast) :
    (Ast.group kind body).groups = kind.groups ++ body.groups := by
  cases kind <;> rfl

namespace Level

variable (l : Level)

theorem groups_push (a : Ast) : (l.push a).groups = l.groups ++ a.groups := by
  simp [groups, push, Ast.groupsAll_append, Ast.groupsAll_singleton]

theorem groups_branch : l.branch.groups = l.groups := by
  simp [groups, branch, Ast.groupsAll_append, Ast.groups_ofItems, Ast.groupsAll]

theorem groups_close : l.close.groups = l.groups := by
  unfold close groups
  split
  · rename_i hbranches
    rw [hbranches]
    exact Ast.groups_ofItems _
  · change Ast.groupsAll _ = _
    rw [List.reverse_cons, Ast.groupsAll_append, Ast.groupsAll_singleton, Ast.groups_ofItems]

theorem groups_repeatLast {l l' : Level} {min : Nat} {max : Option Nat} {greedy : Bool}
    (h : l.repeatLast min max greedy = some l') : l'.groups = l.groups := by
  unfold repeatLast at h
  split at h
  case h_4 a items _ _ hitems =>
    cases h
    rw [groups, groups, hitems, List.reverse_cons, List.reverse_cons, Ast.groupsAll_append,
      Ast.groupsAll_append, Ast.groupsAll_singleton, Ast.groupsAll_singleton, Ast.groups]
  all_goals cases h

end Level

end Groups

/-- The trees of a level are in order. -/
structure Level.Ordered (l : Level) : Prop where
  branches : ∀ a ∈ l.branches, a.Ordered
  items : ∀ a ∈ l.items, a.Ordered

/-- The trees of all open levels are in order. The groups so far are numbered as they have opened,
and their names are those taken so far, each of them once. -/
structure State.Ordered (st : State) : Prop where
  level : st.level.Ordered
  opened : ∀ g ∈ st.opened, g.outside.Ordered
  numbers : st.groups.map (·.1) = List.range' 1 st.captures
  names : st.groups.filterMap (·.2) = st.names.reverse
  nodup : st.names.Nodup

theorem Ast.orderedAll_of_forall {l : List Ast} (h : ∀ a ∈ l, a.Ordered) : Ast.OrderedAll l := by
  induction l with
  | nil => trivial
  | cons a l ih =>
    obtain ⟨ha, hl⟩ := List.forall_mem_cons.mp h
    exact ⟨ha, ih hl⟩

theorem Ast.ordered_ofItems {l : List Ast} (h : ∀ a ∈ l, a.Ordered) : (Ast.ofItems l).Ordered := by
  rcases l with _ | ⟨a, _ | ⟨b, l⟩⟩
  · trivial
  · exact h a List.mem_cons_self
  · exact Ast.orderedAll_of_forall h

namespace Level.Ordered

variable {l : Level}

theorem empty : Level.Ordered {} where
  branches := by simp
  items := by simp

theorem push {a : Ast} (h : l.Ordered) (ha : a.Ordered) : (l.push a).Ordered :=
  ⟨h.branches, List.forall_mem_cons.mpr ⟨ha, h.items⟩⟩

theorem last (h : l.Ordered) : (Ast.ofItems l.items.reverse).Ordered :=
  Ast.ordered_ofItems fun a ha => h.items a (List.mem_reverse.mp ha)

theorem branch (h : l.Ordered) : l.branch.Ordered :=
  ⟨List.forall_mem_cons.mpr ⟨h.last, h.branches⟩, by simp [Level.branch]⟩

theorem close (h : l.Ordered) : l.close.Ordered := by
  unfold Level.close
  split
  · exact h.last
  · refine Ast.orderedAll_of_forall fun a ha => ?_
    obtain rfl | ha := List.mem_cons.mp (List.mem_reverse.mp ha)
    · exact h.last
    · exact h.branches a ha

theorem repeatLast {min : Nat} {max : Option Nat} {greedy : Bool} {l' : Level} (h : l.Ordered)
    (hbounds : ∀ m ∈ max, min ≤ m) (hl : l.repeatLast min max greedy = some l') : l'.Ordered := by
  unfold Level.repeatLast at hl
  split at hl
  case h_4 a items _ _ hitems =>
    cases hl
    have hall := h.items
    rw [hitems] at hall
    obtain ⟨ha, hrest⟩ := List.forall_mem_cons.mp hall
    exact ⟨h.branches, List.forall_mem_cons.mpr ⟨⟨hbounds, ha⟩, hrest⟩⟩
  all_goals cases hl

end Level.Ordered

/-- No group inside of an open one has its number. -/
theorem State.Ordered.apart {st : State} (hst : st.Ordered) {g : OpenGroup}
    {opened : List OpenGroup} (hopened : st.opened = g :: opened) {i : Nat} {n : Option String}
    (hkind : g.kind = .capture i n) : ∀ g ∈ st.level.close.groups, g.1 ≠ i := by
  have hnodup : (st.groups.map (·.1)).Nodup := hst.numbers ▸ List.nodup_range'
  have hgroups : st.groups =
      openedGroups opened ++ g.outside.groups ++ (i, n) :: st.level.close.groups := by
    rw [State.groups, hopened, openedGroups, hkind, Level.groups_close]
    simp [GroupKind.groups]
  rw [hgroups, List.map_append, List.map_cons] at hnodup
  have hi := (List.nodup_cons.mp (List.nodup_append.mp hnodup).2.1).1
  intro g hg heq
  exact hi (heq ▸ List.mem_map.mpr ⟨g, hg, rfl⟩)

theorem Token.Ordered.apply {k : Token} {st st' : State} (hk : k.Ordered)
    (h : k.apply st = some st') (hst : st.Ordered) : st'.Ordered := by
  -- Most tokens leave the groups and their names as they are.
  have hkeeps {level : Level} {opened : List OpenGroup} {verbose : Bool} (hlevel : level.Ordered)
      (hopened : ∀ g ∈ opened, g.outside.Ordered)
      (hgroups : openedGroups opened ++ level.groups = st.groups) :
      State.Ordered { st with level, opened, verbose } :=
    ⟨hlevel, hopened, (congrArg _ hgroups).trans hst.numbers, (congrArg _ hgroups).trans hst.names,
      hst.nodup⟩
  cases k with
  | part a =>
    cases h
    refine hkeeps (hst.level.push hk.ordered) hst.opened ?_
    rw [Level.groups_push, hk.groups, List.append_nil]
    rfl
  | flags settings =>
    cases h
    refine hkeeps (hst.level.push trivial) hst.opened ?_
    rw [Level.groups_push]
    exact congrArg _ (List.append_nil _)
  | repetition min max greedy =>
    obtain ⟨l, hl, h⟩ := Option.map_eq_some_iff.mp h
    cases h
    refine hkeeps (hst.level.repeatLast hk hl) hst.opened ?_
    rw [Level.groups_repeatLast hl]
    rfl
  | branch =>
    cases h
    refine hkeeps hst.level.branch hst.opened ?_
    rw [Level.groups_branch]
    rfl
  | plain settings =>
    cases h
    refine hkeeps .empty (List.forall_mem_cons.mpr ⟨hst.level, hst.opened⟩) ?_
    rw [openedGroups]
    simp [GroupKind.groups, Level.groups, Ast.groupsAll, State.groups]
  | capture name =>
    have hopens (names : List String) :
        State.groups ({ st with names }.capture name) = st.groups ++ [(st.captures + 1, name)] := by
      simp [State.groups, State.capture, State.openGroup, openedGroups, GroupKind.groups,
        Level.groups, Ast.groupsAll]
    have hnumbers (names : List String) :
        (State.groups ({ st with names }.capture name)).map (·.1) =
          List.range' 1 (st.captures + 1) := by
      rw [hopens, List.map_append, hst.numbers, List.range'_concat]
      simp [Nat.add_comm]
    cases name with
    | none =>
      cases h
      refine ⟨.empty, List.forall_mem_cons.mpr ⟨hst.level, hst.opened⟩, hnumbers st.names, ?_,
        hst.nodup⟩
      have hgroups := hopens st.names
      rw [hgroups, List.filterMap_append, hst.names]
      exact List.append_nil _
    | some name =>
      obtain ⟨hname, h⟩ := Option.ite_none_left_eq_some.mp h
      cases h
      refine ⟨.empty, List.forall_mem_cons.mpr ⟨hst.level, hst.opened⟩,
        hnumbers (name :: st.names), ?_, List.nodup_cons.mpr ⟨hname, hst.nodup⟩⟩
      rw [hopens, List.filterMap_append, hst.names]
      exact List.reverse_cons.symm
  | close =>
    have h : st.closeGroup = some st' := h
    unfold State.closeGroup at h
    split at h
    · cases h
    · rename_i g opened hopened
      cases h
      have hall := hst.opened
      rw [hopened] at hall
      obtain ⟨hg, hrest⟩ := List.forall_mem_cons.mp hall
      have hgroup : (Ast.group g.kind st.level.close).Ordered := by
        cases hkind : g.kind with
        | capture i n => exact ⟨hst.apart hopened hkind, hst.level.close⟩
        | plain settings => exact hst.level.close
      refine hkeeps (hg.push hgroup) hrest ?_
      rw [Level.groups_push, Ast.groups_group, Level.groups_close, State.groups, hopened,
        openedGroups]
      simp

/-- The groups are numbered from one on in the order in which they open, and their names differ. -/
structure Ast.Numbered (a : Ast) : Prop where
  numbers : a.groups.map (·.1) = List.range' 1 a.groups.length
  names : (a.groups.filterMap (·.2)).Nodup

theorem exists_of_tree? {s : List Char} {a : Ast} (h : tree? s = some a) :
    ∃ st : State, st.Ordered ∧ st.opened = [] ∧ a = st.level.close := by
  obtain ⟨st, hrun, h⟩ := Option.bind_eq_some_iff.mp h
  obtain ⟨hopened, ha⟩ := Option.ite_none_right_eq_some.mp h
  have hst : st.Ordered := run_induction (fun hk h hst => (Token.ordered_of_read hk).apply h hst)
    hrun ⟨.empty, by simp, rfl, rfl, List.nodup_nil⟩
  exact ⟨st, hst, List.isEmpty_iff.mp hopened, (Option.some.inj ha).symm⟩

/-- The tree of a text has the bounds of its repetitions in order. -/
theorem ordered_of_tree? {s : List Char} {a : Ast} (h : tree? s = some a) : a.Ordered := by
  obtain ⟨st, hst, -, rfl⟩ := exists_of_tree? h
  exact hst.level.close

/-- The groups of the tree of a text are numbered as they open. -/
theorem numbered_of_tree? {s : List Char} {a : Ast} (h : tree? s = some a) : a.Numbered := by
  obtain ⟨st, hst, hopened, rfl⟩ := exists_of_tree? h
  have hgroups : st.groups = st.level.close.groups := by
    rw [State.groups, hopened, Level.groups_close]
    rfl
  have hnumbers := hst.numbers
  have hlength := congrArg List.length hnumbers
  rw [List.length_map, List.length_range'] at hlength
  refine ⟨?_, ?_⟩
  · rw [← hgroups, hlength, hnumbers]
  · rw [← hgroups, hst.names]
    exact List.nodup_reverse.mpr hst.nodup

end Ordered

end DeclRules.Pattern

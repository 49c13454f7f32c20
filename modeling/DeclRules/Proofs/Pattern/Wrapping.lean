import DeclRules.Pattern.FieldPattern
import DeclRules.Proofs.Pattern.Tree

/-! # A pattern between its anchors

The reader goes through a text inside an open group as it does through the text alone, only that
the group stays open (`State.under`). Where the text ends outside a comment, what closes the group
is read behind it; where it ends in a comment of verbose mode, the comment takes that in
(`run_append`). So a pattern that is wrapped stands as one group between the anchors, or the
wrapped text is no pattern (`tree?_wrap`). -/

namespace DeclRules.Pattern

/-- The state inside of further open groups. -/
def State.under (st : State) (outer : List OpenGroup) : State :=
  { st with opened := st.opened ++ outer }

section Run

variable {st st' : State} {outer : List OpenGroup} {n m : Nat} {s t : List Char}

@[simp] theorem under_nil (st : State) : st.under [] = st := by
  simp [State.under]

/-- What a token makes of a state, it makes of it inside of further groups. -/
theorem Token.apply_under {k : Token} (h : k.apply st = some st') (outer : List OpenGroup) :
    k.apply (st.under outer) = some (st'.under outer) := by
  cases k with
  | part a =>
    cases h
    rfl
  | flags settings =>
    cases h
    rfl
  | repetition min max greedy =>
    obtain ⟨l, hl, h⟩ := Option.map_eq_some_iff.mp h
    cases h
    exact Option.map_eq_some_iff.mpr ⟨l, hl, rfl⟩
  | branch =>
    cases h
    rfl
  | plain settings =>
    cases h
    rfl
  | capture name =>
    cases name with
    | none =>
      cases h
      rfl
    | some name =>
      obtain ⟨hname, h⟩ := Option.ite_none_left_eq_some.mp h
      cases h
      exact Option.ite_none_left_eq_some.mpr ⟨hname, rfl⟩
  | close =>
    have h : st.closeGroup = some st' := h
    have hunder : st.under outer = { st with opened := st.opened ++ outer } := rfl
    unfold State.closeGroup at h
    split at h
    · cases h
    · rename_i g opened hopened
      cases h
      simp [Token.apply, State.closeGroup, hunder, hopened]
      rfl

/-- A run only looks at what is left behind blanks and comments. -/
theorem run_congr (h : skip st.verbose s = skip st.verbose t) : run n st s = run n st t := by
  rw [run.eq_def, run.eq_def n st t, h]

/-- A group that is open around the text can be closed behind it. -/
def ClosesBehind (n : Nat) (st : State) (s : List Char) (st' : State) : Prop :=
  ∀ outer t m, t.head? = some ')' → n ≤ m →
    ∃ k, m - n ≤ k ∧ run m (st.under outer) (s ++ t) = run k (st'.under outer) t

/-- What is put behind the text on its last line is part of a comment. -/
def SwallowsBehind (n : Nat) (st : State) (s : List Char) (st' : State) : Prop :=
  ∀ outer t m, '\n' ∉ t → n ≤ m → run m (st.under outer) (s ++ t) = some (st'.under outer)

/-- Behind the last token there may still be a comment. -/
theorem run_append_end (h : skip st.verbose s = []) (n : Nat) :
    ClosesBehind n st s st ∨ HasComment s ∧ SwallowsBehind n st s st := by
  obtain hs | ⟨-, hclosed⟩ | ⟨-, hcomment, hopen⟩ := skip_cases st.verbose s
  · exact absurd h hs
  · refine .inl fun outer t m ht _ => ⟨m, Nat.sub_le m n, run_congr ?_⟩
    exact (hclosed t ht).trans (skip_closing ht).symm
  · exact .inr ⟨hcomment, fun outer t m ht _ => run_nil (hopen t ht)⟩

/-- A token in front changes nothing about what happens behind the text. -/
theorem run_append_token {c : Char} {k : Token} {r r' : List Char} {st₁ : State}
    (hs : skip st.verbose s = c :: r) (hk : Token.read st.verbose c r = some (k, r'))
    (hst : k.apply st = some st₁) (h : run n st₁ r' = some st')
    (ih : ClosesBehind n st₁ r' st' ∨ HasComment r' ∧ SwallowsBehind n st₁ r' st') :
    ClosesBehind (n + 1) st s st' ∨ HasComment s ∧ SwallowsBehind (n + 1) st s st' := by
  have hstep (outer : List OpenGroup) (t u : List Char) (m : Nat)
      (hread : Token.read st.verbose c (r ++ t) = some (k, u)) (hm : n + 1 ≤ m) :
      n ≤ m - 1 ∧ run m (st.under outer) (s ++ t) = run (m - 1) (st₁.under outer) u := by
    obtain ⟨m, rfl⟩ : ∃ m', m = m' + 1 := ⟨m - 1, by omega⟩
    refine ⟨Nat.le_of_succ_le_succ hm, ?_⟩
    have hskip : skip (st.under outer).verbose (s ++ t) = c :: (r ++ t) := skip_append_cons hs t
    have hread' : Token.read (st.under outer).verbose c (r ++ t) = some (k, u) := hread
    rw [run_cons hskip, hread', Option.bind_some, Token.apply_under hst outer]
    rfl
  cases Token.read_goesOn hk with
  | inside hr hF =>
    obtain hcloses | ⟨hcomment, hswallows⟩ := ih
    · refine .inl fun outer t m ht hm => ?_
      obtain ⟨hm', hrun⟩ := hstep outer t _ m (hF t) hm
      obtain ⟨j, hj, hclose⟩ := hcloses outer t (m - 1) ht hm'
      exact ⟨j, by omega, hrun.trans hclose⟩
    · refine .inr ⟨(hcomment.mono hr).mono (suffix_of_skip hs), fun outer t m ht hm => ?_⟩
      obtain ⟨hm', hrun⟩ := hstep outer t _ m (hF t) hm
      exact hrun.trans (hswallows outer t (m - 1) ht hm')
  | atEnd hF =>
    cases (run_nil (skip_nil st₁.verbose)).symm.trans h
    refine .inl fun outer t m ht hm => ?_
    obtain ⟨hm', hrun⟩ := hstep outer t t m (hF t ht) hm
    exact ⟨m - 1, by omega, hrun⟩
  | inComment hcomment hF =>
    cases (run_nil (skip_nil st₁.verbose)).symm.trans h
    refine .inr ⟨hcomment.mono (suffix_of_skip hs), fun outer t m ht hm => ?_⟩
    obtain ⟨hm', hrun⟩ := hstep outer t [] m (hF t ht) hm
    exact hrun.trans (run_nil (skip_nil _))

/-- What is put behind a text closes the groups around it, or it is lost in a comment. -/
theorem run_append (h : run n st s = some st') :
    ClosesBehind n st s st' ∨ HasComment s ∧ SwallowsBehind n st s st' := by
  induction n generalizing st s with
  | zero =>
    obtain ⟨hs, rfl⟩ | ⟨_, _, _, _, _, _, h0, -⟩ := run_cases h
    · exact run_append_end hs 0
    · cases h0
  | succ n ih =>
    obtain ⟨hs, rfl⟩ | ⟨_, c, r, k, r', st₁, ⟨⟩, hs, hk, hst, h⟩ := run_cases h
    · exact run_append_end hs (n + 1)
    · exact run_append_token hs hk hst h (ih h)

end Run

section Wrap

variable {s : List Char} {a : Ast}

/-- The text ends in a comment of verbose mode: whatever is put behind it on the same line, its tree
is the same. -/
def EndsInComment (s : List Char) : Prop :=
  HasComment s ∧ ∀ t, '\n' ∉ t → tree? (s ++ t) = tree? s

/-- The tree of a pattern between its anchors. -/
def Ast.wrapped (a : Ast) : Ast :=
  .concat [.assertion .lineStart, .group (.plain []) a, .assertion .lineEnd]

/-- The group around a pattern. -/
def wrapGroup : OpenGroup where
  kind := .plain []
  outside := { items := [.assertion .lineStart] }
  verbose := false

/-- The first two tokens of a wrapped pattern open the group around it. -/
theorem run_wrap_start (n : Nat) (t : List Char) :
    run (n + 2) {} ("^(?:".toList ++ t) = run n (({} : State).under [wrapGroup]) t := by
  have hread : Token.read false '(' ('?' :: ':' :: t) = some (.plain [], t) := rfl
  change run (n + 2) {} ('^' :: '(' :: '?' :: ':' :: t) = _
  rw [run_cons (c := '^') (r := '(' :: '?' :: ':' :: t) rfl]
  change run (n + 1) (({} : State).push (.assertion .lineStart)) ('(' :: '?' :: ':' :: t) = _
  rw [run_cons (c := '(') (r := '?' :: ':' :: t) rfl]
  change (Token.read false '(' ('?' :: ':' :: t)).bind _ = _
  rw [hread]
  rfl

/-- The last two tokens of a wrapped pattern close the group around it. -/
theorem run_wrap_end {st : State} (hopened : st.opened = []) (n : Nat) :
    ∃ st', run (n + 2) (st.under [wrapGroup]) ")$".toList = some st' ∧ st'.opened = [] ∧
      st'.level.close = st.level.close.wrapped := by
  obtain ⟨level, opened, verbose, names, captures⟩ := st
  cases hopened
  let closed : State := {
    level := wrapGroup.outside.push (.group (.plain []) level.close)
    opened := []
    verbose := false
    names
    captures }
  refine ⟨closed.push (.assertion .lineEnd), ?_, rfl, rfl⟩
  change run (n + 2) _ [')', '$'] = _
  rw [run_cons (c := ')') (r := ['$']) (skip_closing rfl)]
  change run (n + 1) closed ['$'] = _
  rw [run_cons (c := '$') (r := []) rfl]
  exact run_nil (skip_nil false)

/-- A parenthesis that closes no group makes a text no pattern. -/
theorem run_closing {st : State} (hopened : st.opened = []) (n : Nat) : run n st [')'] = none := by
  have hskip : skip st.verbose [')'] = [')'] := skip_closing rfl
  cases n with
  | zero => rw [run.eq_def, hskip]
  | succ n =>
    have happly : Token.close.apply st = none := by
      change st.closeGroup = none
      rw [State.closeGroup, hopened]
    rw [run_cons hskip]
    change (Token.close.apply st).bind _ = none
    rw [happly]
    rfl

/-- A wrapped pattern is one group between the anchors, unless its text ends in a comment: then the
group is never closed. -/
theorem tree?_wrap (h : tree? s = some a) : ¬ EndsInComment s ∧ tree? (wrap s) = some a.wrapped ∨
    EndsInComment s ∧ tree? (wrap s) = none := by
  obtain ⟨st, hrun, h⟩ := Option.bind_eq_some_iff.mp h
  obtain ⟨hopened, ha⟩ := Option.ite_none_right_eq_some.mp h
  have hopened : st.opened = [] := List.isEmpty_iff.mp hopened
  have hwrap : run (wrap s).length {} (wrap s) =
      run (s.length + 4) (({} : State).under [wrapGroup]) (s ++ ")$".toList) := by
    have hlength : (wrap s).length = s.length + 4 + 2 := by simp [wrap]
    rw [hlength, wrap, List.append_assoc, run_wrap_start]
  obtain hcloses | ⟨hcomment, hswallows⟩ := run_append hrun
  · refine .inl ⟨?_, ?_⟩
    · rintro ⟨-, hsame⟩
      obtain ⟨k, -, hk⟩ := hcloses [] [')'] (s ++ [')']).length rfl (by simp)
      rw [under_nil, under_nil, run_closing hopened] at hk
      have hnone : tree? (s ++ [')']) = none := by rw [tree?, hk]; rfl
      rw [hsame [')'] (by simp), tree?, hrun] at hnone
      simp [hopened] at hnone
    · obtain ⟨k, hk, hclose⟩ := hcloses [wrapGroup] ")$".toList (s.length + 4) rfl (by omega)
      obtain ⟨n, rfl⟩ : ∃ n, k = n + 2 := ⟨k - 2, by omega⟩
      obtain ⟨st', hst', hopened', hlevel⟩ := run_wrap_end hopened n
      rw [tree?, hwrap, hclose, hst', Option.bind_some, hopened', hlevel, Option.some.inj ha]
      rfl
  · refine .inr ⟨⟨hcomment, fun t ht => ?_⟩, ?_⟩
    · have hsame := hswallows [] t (s ++ t).length ht (by simp)
      rw [under_nil, under_nil] at hsame
      rw [tree?, tree?, hsame, hrun]
    · rw [tree?, hwrap, hswallows [wrapGroup] ")$".toList (s.length + 4) (by decide) (by omega),
        Option.bind_some, State.under, hopened]
      rfl

end Wrap

end DeclRules.Pattern

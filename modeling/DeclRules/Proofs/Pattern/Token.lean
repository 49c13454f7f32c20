import DeclRules.Pattern.Reader
import DeclRules.Proofs.Pattern.Bracket

/-! # The tokens of a pattern

A step of the reader takes a token, which depends on the text and on whether the mode is verbose,
and then applies it to the state (`step_eq`). A text put behind the one that is read does not
change the token; what is left then is told by `GoesOn`. -/

namespace DeclRules.Pattern

inductive Token where
  /-- A part of the branch in work. -/
  | part (a : Ast)
  | flags (settings : FlagSettings)
  | repetition (min : Nat) (max : Option Nat) (greedy : Bool)
  | branch
  | plain (settings : FlagSettings)
  | capture (name : Option String)
  | close

namespace Token

/-- A repetition, lazy if a question mark follows. -/
def ofBounds (min : Nat) (max : Option Nat) (r : List Char) : Token × List Char :=
  (.repetition min max !(readLazy r).1, (readLazy r).2)

/-- A capture group by its name, the bracket in front of that already taken. -/
def readNamed : Reader Token := fun r =>
  (readGroupName [] r).map fun p => (.capture (some p.1), p.2)

/-- Flags that hold for a group, up to its colon, or for the rest of the group around them. -/
def readSettings : Reader Token := fun r =>
  (readFlags [] false false r).bind fun p =>
    if p.1.2 then some (.plain p.1.1, p.2)
    else if p.1.1.isEmpty then none
    else some (.flags p.1.1, p.2)

/-- A group or a setting of flags, its parenthesis and the question mark behind it already taken. -/
def readMarked : Reader Token
  | '=' :: _ | '!' :: _ | '<' :: '=' :: _ | '<' :: '!' :: _ => none
  | 'P' :: '<' :: r | '<' :: r => readNamed r
  | r => readSettings r

/-- A group or a setting of flags, its parenthesis already taken and what verbose mode ignores
behind that skipped. -/
def readGroup : Reader Token
  | '?' :: r => readMarked r
  | r => some (.capture none, r)

def ofEscaped : Escaped → Token
  | .atom a => .part (.atom a)
  | .assertion a => .part (.assertion a)

/-- A token of which `c` is the first character. -/
def read (verbose : Bool) (c : Char) : Reader Token := fun r =>
  match c with
  | '(' => readGroup (skip verbose r)
  | ')' => some (.close, r)
  | '|' => some (.branch, r)
  | '[' => (readBracket verbose r).map fun p => (.part (.bracket p.1.1 p.1.2), p.2)
  | '?' => some (ofBounds 0 (some 1) r)
  | '*' => some (ofBounds 0 none r)
  | '+' => some (ofBounds 1 none r)
  | '\x7b' => (readBounds verbose r).map fun p => ofBounds p.1.1 p.1.2 (skip verbose p.2)
  | '\\' => (readEscape verbose r).map fun p => (ofEscaped p.1, p.2)
  | '.' => some (.part .dot, r)
  | '^' => some (.part (.assertion .lineStart), r)
  | '$' => some (.part (.assertion .lineEnd), r)
  | c => some (.part (.atom (.literal c false)), r)

/-- What a token makes of a state. -/
def apply (st : State) : Token → Option State
  | part a => some (st.push a)
  | flags settings =>
    some ({ st with verbose := State.verboseAfter settings st.verbose }.push (.flags settings))
  | repetition min max greedy =>
    (st.level.repeatLast min max greedy).map fun level => { st with level }
  | branch => some { st with level := st.level.branch }
  | plain settings => some (st.openGroup (.plain settings))
  | capture none => some (st.capture none)
  | capture (some name) =>
    if name ∈ st.names then none
    else some ({ st with names := name :: st.names }.capture (some name))
  | close => st.closeGroup

end Token

theorem apply_readNamed (st : State) (r : List Char) :
    ((Token.readNamed r).bind fun p => (p.1.apply st).map fun st => (st, p.2)) =
      (readGroupName [] r).bind fun p => if p.1 ∈ st.names then none
        else some ({ st with names := p.1 :: st.names }.capture (some p.1), p.2) := by
  unfold Token.readNamed
  cases readGroupName [] r with
  | none => rfl
  | some p =>
    simp only [Option.map_some, Option.bind_some, Token.apply]
    split <;> rfl

theorem apply_readSettings (st : State) (r : List Char) :
    ((Token.readSettings r).bind fun p => (p.1.apply st).map fun st => (st, p.2)) =
      (readFlags [] false false r).bind fun p =>
        if p.1.2 then some (st.openGroup (.plain p.1.1), p.2)
        else if p.1.1.isEmpty then none
        else some ({ st with verbose := State.verboseAfter p.1.1 st.verbose }.push (.flags p.1.1),
          p.2) := by
  unfold Token.readSettings
  cases readFlags [] false false r with
  | none => rfl
  | some p =>
    simp only [Option.bind_some]
    split
    · rfl
    · split <;> rfl

theorem readGroup_eq (st : State) (s : List Char) : readGroup st s =
    (Token.readGroup (skip st.verbose s)).bind fun p => (p.1.apply st).map fun st => (st, p.2) := by
  unfold readGroup
  generalize skip st.verbose s = u
  split
  case h_5 r => exact (apply_readNamed st r).symm
  case h_6 r heq hne =>
    rw [Token.readGroup, Token.readMarked]
    exact (apply_readNamed st r).symm
    · exact heq
    · exact hne
  case h_7 r h1 h2 h3 h4 h5 h6 =>
    rw [Token.readGroup, Token.readMarked]
    exact (apply_readSettings st r).symm
    all_goals assumption
  case h_8 h =>
    rw [Token.readGroup]
    · rfl
    · assumption
  all_goals rfl

theorem apply_ofBounds (st : State) (min : Nat) (max : Option Nat) (r : List Char) :
    ((Token.ofBounds min max r).1.apply st).map (fun st => (st, (Token.ofBounds min max r).2)) =
      (st.level.repeatLast min max !(readLazy r).1).map fun level =>
        ({ st with level }, (readLazy r).2) := by
  rw [Token.ofBounds, Token.apply, Option.map_map]
  rfl

/-- A step takes a token and applies it. -/
theorem step_eq (st : State) (c : Char) (r : List Char) : step st c r =
    (Token.read st.verbose c r).bind fun p => (p.1.apply st).map fun st => (st, p.2) := by
  unfold step
  split
  case h_1 => exact readGroup_eq st r
  case h_4 =>
    simp only [Token.read]
    cases readBracket st.verbose r <;> rfl
  case h_5 | h_6 | h_7 => exact (apply_ofBounds st _ _ r).symm
  case h_8 =>
    simp only [Token.read]
    cases readBounds st.verbose r with
    | none => rfl
    | some p => exact (apply_ofBounds st p.1.1 p.1.2 (skip st.verbose p.2)).symm
  case h_9 =>
    simp only [Token.read]
    rcases readEscape st.verbose r with _ | ⟨_ | _, _⟩ <;> rfl
  case h_13 => simp [Token.read, Token.apply]
  all_goals rfl

section Bounds

variable {α : Type} {verbose : Bool}

/-- A number with something behind it that begins with a character. -/
theorem local_readDecimal_bind {G : Nat → Reader α} (hG : ∀ n, Local (G n))
    (hnil : ∀ n, G n [] = none) :
    Local fun s => (readDecimal verbose s).bind fun p => G p.1 p.2 := by
  intro s a r h
  obtain ⟨⟨n, u⟩, hn, h⟩ := Option.bind_eq_some_iff.mp h
  have hu : u ≠ [] := by
    rintro rfl
    rw [hnil] at h
    cases h
  obtain ⟨hr, hF⟩ := hG n u a r h
  exact ⟨hr.trans (readDecimal_suffix hn), fun t => by simp [readDecimal_append hn hu t, hF t]⟩

/-- Blanks in front of what begins with a character. -/
theorem Local.afterSkip {R : Reader α} (hR : Local R) (hnil : R [] = none) :
    Local fun s => R (skip verbose s) := by
  intro s a r h
  have hs : skip verbose s ≠ [] := by
    intro h0
    simp only [h0, hnil] at h
    cases h
  obtain ⟨hr, hF⟩ := hR _ a r h
  exact ⟨hr.trans (skip_suffix verbose s), fun t => by simpa only [skip_append hs] using hF t⟩

/-- A choice by the first character. -/
theorem Local.ofHead {R S : Reader α} (c : Char) (hR : Local R) (hS : Local S)
    (hnil : S [] = none) : Local fun s => if s.head? = some c then R s.tail else S s := by
  intro s
  cases s with
  | nil =>
    simp only [List.head?_nil, reduceCtorEq, if_false, hnil]
    exact .none
  | cons d s =>
    simp only [List.head?_cons, List.cons_append, List.tail_cons]
    exact .ite ((hR s).mono (List.suffix_cons d s)) (hS (d :: s))

theorem Local.none : Local (fun _ => none : Reader α) := fun _ => .none

/-- The brace that closes the bounds, the first of which is not above the second. -/
def readClosing (n m : Nat) : Reader (Nat × Option Nat) := fun s =>
  if s.head? = some '\x7d' then (if n ≤ m then some ((n, some m), s.tail) else Option.none)
  else Option.none

/-- The upper bound, if there is one. -/
def readUpper (verbose : Bool) (n : Nat) : Reader (Nat × Option Nat) := fun s =>
  if s.head? = some '\x7d' then some ((n, Option.none), s.tail)
  else (readDecimal verbose s).bind fun p => readClosing n p.1 p.2

/-- What stands behind the lower bound. -/
def readBehindLower (verbose : Bool) (n : Nat) : Reader (Nat × Option Nat) := fun s =>
  if s.head? = some '\x7d' then some ((n, some n), s.tail)
  else if s.head? = some ',' then readUpper verbose n (skip verbose s.tail)
  else Option.none

theorem readBounds_eq (s : List Char) : readBounds verbose s =
    (readDecimal verbose (skip verbose s)).bind fun p => readBehindLower verbose p.1 p.2 := by
  unfold readBounds
  cases readDecimal verbose (skip verbose s) with
  | none => rfl
  | some p =>
    obtain ⟨n, u⟩ := p
    simp only [Option.bind_eq_bind, Option.bind_some, readBehindLower]
    split
    · rfl
    · rw [List.head?_cons, if_neg (by simp), if_pos rfl, List.tail_cons, readUpper]
      generalize skip verbose _ = w
      split
      · rfl
      · rename_i hw
        rw [if_neg]
        · cases readDecimal verbose w with
          | none => rfl
          | some q =>
            obtain ⟨m, v⟩ := q
            simp only [Option.bind_some, readClosing]
            split
            · rfl
            · rename_i hv
              rw [if_neg]
              intro h
              obtain ⟨v', hv'⟩ := List.head?_eq_some_iff.mp h
              exact hv v' hv'
        · intro h
          obtain ⟨w', hw'⟩ := List.head?_eq_some_iff.mp h
          exact hw w' hw'
    · rename_i hbrace hcomma
      rw [if_neg, if_neg]
      · intro h
        obtain ⟨u', hu'⟩ := List.head?_eq_some_iff.mp h
        exact hcomma u' hu'
      · intro h
        obtain ⟨u', hu'⟩ := List.head?_eq_some_iff.mp h
        exact hbrace u' hu'

theorem local_readClosing (n m : Nat) : Local (readClosing n m) :=
  .ofHead '\x7d' (R := fun s => if n ≤ m then some ((n, some m), s) else none)
    (fun _ => .ite .some .none) .none rfl

theorem local_readUpper (n : Nat) : Local (readUpper verbose n) :=
  .ofHead '\x7d' (.pure _) (local_readDecimal_bind (local_readClosing n) fun _ => rfl) rfl

theorem local_readBehindLower (n : Nat) : Local (readBehindLower verbose n) :=
  .ofHead '\x7d' (.pure _) (.ofHead ',' ((local_readUpper n).afterSkip rfl) .none rfl) rfl

theorem local_readBounds (verbose : Bool) : Local (readBounds verbose) := by
  intro s
  simp only [readBounds_eq]
  exact ((local_readDecimal_bind local_readBehindLower fun _ => rfl).afterSkip rfl) s

end Bounds

section Marked

theorem local_readNamed : Local Token.readNamed := fun s =>
  (local_readGroupName [] s).map fun name => Token.capture (some name)

theorem local_readSettings : Local Token.readSettings := by
  intro s
  refine .bind (G := fun p r => if p.2 then some (Token.plain p.1, r)
    else if p.1.isEmpty then none else some (Token.flags p.1, r))
    (local_readFlags [] false false s) ?_
  exact fun p r => .ite .some (.ite .none .some)

theorem local_readMarked : Local Token.readMarked := by
  intro s k r h
  unfold Token.readMarked at h
  split at h
  case h_5 s =>
    obtain ⟨hr, hF⟩ := local_readNamed s k r h
    exact ⟨(hr.trans (List.suffix_cons _ s)).trans (List.suffix_cons _ _), hF⟩
  case h_6 s heq hne =>
    obtain ⟨hr, hF⟩ := local_readNamed s k r h
    refine ⟨hr.trans (List.suffix_cons _ s), fun t => ?_⟩
    cases s with
    | nil => cases h
    | cons c s =>
      dsimp only [List.cons_append]
      rw [Token.readMarked]
      · exact hF t
      · simp_all
      · simp_all
  case h_7 h1 h2 h3 h4 h5 h6 =>
    obtain ⟨hr, hF⟩ := local_readSettings s k r h
    refine ⟨hr, fun t => ?_⟩
    rcases s with _ | ⟨c, _ | ⟨d, s⟩⟩
    · cases h
    · by_cases hc : c = 'P'
      · subst hc
        cases h
      · dsimp only [List.cons_append]
        rw [Token.readMarked]
        · exact hF t
        all_goals simp_all
    · dsimp only [List.cons_append]
      rw [Token.readMarked]
      · exact hF t
      all_goals simp_all
  all_goals cases h

end Marked

section GoesOn

variable {α β : Type} {verbose : Bool} {s r t : List Char}

/-- There is a number sign on the last line of a text. -/
def HasComment (s : List Char) : Prop := ∃ before rest, s = before ++ '#' :: rest ∧ '\n' ∉ rest

theorem HasComment.mono (h : HasComment r) (hr : r <:+ s) : HasComment s := by
  obtain ⟨before, rest, rfl, hrest⟩ := h
  obtain ⟨front, rfl⟩ := hr
  exact ⟨front ++ before, rest, by simp, hrest⟩

/-- How reading goes on where a text is put behind `s`, `F` being what is then read and left: as
before, or as before where the text closes a group, or in a comment that takes in the text. -/
inductive GoesOn (s : List Char) (F : List Char → Option (α × List Char)) (a : α) :
    List Char → Prop
  | inside {r : List Char} (hr : r <:+ s) (h : ∀ t, F t = some (a, r ++ t)) : GoesOn s F a r
  | atEnd (h : ∀ t, t.head? = some ')' → F t = some (a, t)) : GoesOn s F a []
  | inComment (hs : HasComment s) (h : ∀ t, '\n' ∉ t → F t = some (a, [])) : GoesOn s F a []

variable {o : Option (α × List Char)} {F : List Char → Option (α × List Char)} {a : α}

theorem Extends.goesOn (h : Extends s o F) (ho : o = Option.some (a, r)) : GoesOn s F a r :=
  .inside (h a r ho).1 (h a r ho).2

theorem GoesOn.mono (h : GoesOn r F a t) (hr : r <:+ s) : GoesOn s F a t := by
  cases h with
  | inside ht h => exact .inside (ht.trans hr) h
  | atEnd h => exact .atEnd h
  | inComment hcomment h => exact .inComment (hcomment.mono hr) h

/-- What verbose mode skips ends before a character, at the end of the text or in a comment. -/
theorem skip_cases (verbose : Bool) (s : List Char) : skip verbose s ≠ [] ∨
    skip verbose s = [] ∧ (∀ t, t.head? = some ')' → skip verbose (s ++ t) = t) ∨
    skip verbose s = [] ∧ HasComment s ∧ ∀ t, '\n' ∉ t → skip verbose (s ++ t) = [] := by
  by_cases hs : skip verbose s = []
  · refine .inr ?_
    by_cases hopen : verbose = true ∧ endsInComment false s = true
    · obtain ⟨hverbose, hopen⟩ := hopen
      obtain ⟨h0, -⟩ | hcomment := exists_comment hopen
      · cases h0
      · exact .inr ⟨hs, hcomment, fun t ht => skip_append_of_open hs hverbose hopen ht⟩
    · have hclosed : verbose = true → endsInComment false s = false := fun hverbose =>
        Bool.eq_false_iff.mpr fun h => hopen ⟨hverbose, h⟩
      refine .inl ⟨hs, fun t ht => ?_⟩
      rw [skip_append_of_closed hs hclosed, skip_closing ht]
  · exact .inl hs

theorem readLazy_of_ne (h : s.head? ≠ some '?') : readLazy s = (false, s) := by
  unfold readLazy
  split
  · exact absurd rfl h
  · rfl

theorem readLazy_suffix (s : List Char) : (readLazy s).2 <:+ s := by
  unfold readLazy
  split
  · exact List.suffix_cons _ _
  · exact List.suffix_rfl

theorem readLazy_append (h : s ≠ []) (t : List Char) :
    readLazy (s ++ t) = ((readLazy s).1, (readLazy s).2 ++ t) := by
  obtain ⟨c, s, rfl⟩ := List.exists_cons_of_ne_nil h
  by_cases hc : c = '?'
  · subst hc
    rfl
  · have hhead (u : List Char) : (c :: u).head? ≠ some '?' := fun h => hc (Option.some.inj h)
    rw [List.cons_append, readLazy_of_ne (hhead (s ++ t)), readLazy_of_ne (hhead s)]
    rfl

theorem readLazy_closing (h : t.head? = some ')') : readLazy t = (false, t) :=
  readLazy_of_ne (by simp [h])

namespace Token

theorem ofBounds_suffix (min : Nat) (max : Option Nat) (s : List Char) :
    (ofBounds min max s).2 <:+ s := readLazy_suffix s

theorem ofBounds_append (min : Nat) (max : Option Nat) (h : s ≠ []) (t : List Char) :
    ofBounds min max (s ++ t) = ((ofBounds min max s).1, (ofBounds min max s).2 ++ t) := by
  rw [ofBounds, readLazy_append h]
  rfl

theorem ofBounds_closing (min : Nat) (max : Option Nat) (h : t.head? = some ')') :
    ofBounds min max t = (.repetition min max true, t) := by
  rw [ofBounds, readLazy_closing h]
  rfl

/-- A repetition with a text behind it. -/
theorem ofBounds_goesOn (min : Nat) (max : Option Nat) (s : List Char) :
    GoesOn s (fun t => some (ofBounds min max (s ++ t))) (ofBounds min max s).1
      (ofBounds min max s).2 := by
  by_cases hs : s = []
  · subst hs
    exact .atEnd fun t ht => congrArg some (ofBounds_closing min max ht)
  · exact .inside (ofBounds_suffix min max s) fun t => congrArg some (ofBounds_append min max hs t)

theorem readGroup_append (h : s ≠ []) {k : Token} (hk : readGroup s = some (k, r)) :
    r <:+ s ∧ ∀ t, readGroup (s ++ t) = some (k, r ++ t) := by
  obtain ⟨c, s, rfl⟩ := List.exists_cons_of_ne_nil h
  by_cases hc : c = '?'
  · subst hc
    obtain ⟨hr, hF⟩ := local_readMarked s k r hk
    exact ⟨hr.trans (List.suffix_cons _ s), hF⟩
  · have hgroup (u : List Char) : readGroup (c :: u) = some (.capture none, c :: u) := by
      rw [readGroup]
      simp_all
    rw [hgroup] at hk
    cases hk
    exact ⟨List.suffix_rfl, fun t => hgroup (s ++ t)⟩

theorem readGroup_closing (h : t.head? = some ')') : readGroup t = some (.capture none, t) := by
  obtain ⟨t, rfl⟩ := List.head?_eq_some_iff.mp h
  rfl

theorem readGroup_goesOn {k : Token} (h : readGroup (skip verbose s) = some (k, r)) :
    GoesOn s (fun t => readGroup (skip verbose (s ++ t))) k r := by
  obtain hs | ⟨hs, hclosed⟩ | ⟨hs, hcomment, hopen⟩ := skip_cases verbose s
  · obtain ⟨hr, hF⟩ := readGroup_append hs h
    exact .inside (hr.trans (skip_suffix verbose s)) fun t => by rw [skip_append hs, hF]
  · rw [hs] at h
    cases h
    exact .atEnd fun t ht => by rw [hclosed t ht, readGroup_closing ht]
  · rw [hs] at h
    cases h
    exact .inComment hcomment fun t ht => by rw [hopen t ht]; rfl

/-- A repetition by its bounds, behind which blanks are skipped. -/
theorem bounded_goesOn (min : Nat) (max : Option Nat) (s : List Char) :
    GoesOn s (fun t => some (ofBounds min max (skip verbose (s ++ t))))
      (ofBounds min max (skip verbose s)).1 (ofBounds min max (skip verbose s)).2 := by
  obtain hs | ⟨hs, hclosed⟩ | ⟨hs, hcomment, hopen⟩ := skip_cases verbose s
  · simp only [skip_append hs]
    exact (ofBounds_goesOn min max _).mono (skip_suffix verbose s)
  · rw [hs]
    exact .atEnd fun t ht => by rw [hclosed t ht, ofBounds_closing min max ht]; rfl
  · rw [hs]
    exact .inComment hcomment fun t ht => by rw [hopen t ht]; rfl

theorem escaped_goesOn {f : Escaped → Token} {k : Token}
    (h : ((readEscape verbose s).map fun p => (f p.1, p.2)) = some (k, r)) :
    GoesOn s (fun t => (readEscape verbose (s ++ t)).map fun p => (f p.1, p.2)) k r := by
  obtain ⟨⟨e, r'⟩, he, hk⟩ := Option.map_eq_some_iff.mp h
  cases hk
  by_cases hr : r' = []
  · subst hr
    refine .atEnd fun t ht => ?_
    rw [readEscape_append he (.inr (by simp [ht]))]
    rfl
  · exact .inside (readEscape_suffix he) fun t => by rw [readEscape_append he (.inl hr)]; rfl

/-- A token is read alike whatever text is behind it, and what is left goes on as `GoesOn` says. -/
theorem read_goesOn {c : Char} {k : Token} (h : read verbose c s = some (k, r)) :
    GoesOn s (fun t => read verbose c (s ++ t)) k r := by
  unfold read at h ⊢
  split at h
  case h_1 => exact readGroup_goesOn h
  case h_4 =>
    exact ((Bracket.local_readBracket verbose s).map fun p =>
      Token.part (.bracket p.1 p.2)).goesOn h
  case h_5 | h_6 | h_7 =>
    cases h
    exact ofBounds_goesOn _ _ s
  case h_8 =>
    obtain ⟨p, hp, hk⟩ := Option.map_eq_some_iff.mp h
    cases hk
    obtain ⟨hr, hF⟩ := local_readBounds verbose s p.1 p.2 hp
    simp only [hF, Option.map_some]
    exact (bounded_goesOn p.1.1 p.1.2 p.2).mono hr
  case h_9 => exact escaped_goesOn h
  all_goals
    cases h
    exact .inside List.suffix_rfl fun t => rfl

end Token

end GoesOn

end DeclRules.Pattern

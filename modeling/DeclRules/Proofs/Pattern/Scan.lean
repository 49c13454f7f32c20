import DeclRules.Pattern.Scan

/-! # Tokens and what is behind them

A reader is local if a text put behind the one it reads changes nothing but what is left
(`Local`). The readers of small tokens are local, as far as something is left where they look one
character ahead. What verbose mode skips is followed character by character (`skipBlanks`): it ends
before a character, at the end of the text, or in a comment, which then takes in whatever is put
behind the text up to the next line feed (`skip_append_of_openComment`). -/

namespace DeclRules.Pattern

section Extends

variable {α β : Type}

/-- What is left of a text `s` is an end of it, and a text behind `s` changes nothing but what is
left: `F` gives what is read with a text behind, `o` what is read without. -/
def Extends (s : List Char) (o : Option (α × List Char)) (F : List Char → Option (α × List Char)) :
    Prop :=
  ∀ a r, o = some (a, r) → r <:+ s ∧ ∀ t, F t = some (a, r ++ t)

/-- A reader that no text behind its own disturbs. -/
def Local (R : Reader α) : Prop := ∀ s, Extends s (R s) fun t => R (s ++ t)

variable {o o' : Option (α × List Char)} {F F' : List Char → Option (α × List Char)} {R : Reader α}
  {s s' : List Char}

theorem Extends.none : Extends s none F := fun _ _ h => by cases h

theorem Extends.some {a : α} : Extends s (some (a, s)) fun t => some (a, s ++ t) := by
  intro b r h
  cases h
  exact ⟨List.suffix_rfl, fun _ => rfl⟩

theorem Extends.mono (h : Extends s o F) (hs : s <:+ s') : Extends s' o F :=
  fun a r hr => ⟨(h a r hr).1.trans hs, (h a r hr).2⟩

theorem Extends.ite {p : Prop} [Decidable p] (h : Extends s o F) (h' : Extends s o' F') :
    Extends s (if p then o else o') fun t => if p then F t else F' t := by
  by_cases hp : p
  · simpa only [if_pos hp] using h
  · simpa only [if_neg hp] using h'

theorem Extends.map (h : Extends s o F) (f : α → β) :
    Extends s (o.map fun p => (f p.1, p.2)) fun t => (F t).map fun p => (f p.1, p.2) := by
  intro b r hb
  obtain ⟨⟨a, r'⟩, ha, hp⟩ := Option.map_eq_some_iff.mp hb
  cases hp
  obtain ⟨hr, hF⟩ := h a r' ha
  exact ⟨hr, fun t => by simp [hF t]⟩

theorem Extends.bind {G : α → Reader β} (h : Extends s o F) (hG : ∀ a, Local (G a)) :
    Extends s (o.bind fun p => G p.1 p.2) fun t => (F t).bind fun p => G p.1 p.2 := by
  intro b r hb
  obtain ⟨⟨a, r'⟩, ha, hp⟩ := Option.bind_eq_some_iff.mp hb
  obtain ⟨hr', hF⟩ := h a r' ha
  obtain ⟨hr, hG⟩ := hG a r' b r hp
  exact ⟨hr.trans hr', fun t => by simp [hF t, hG t]⟩

/-- A value that does not come from the text. -/
theorem Extends.bindValue {x : Option β} {g : β → Option (α × List Char)}
    {G : β → List Char → Option (α × List Char)} (hG : ∀ b, Extends s (g b) (G b)) :
    Extends s (x.bind g) fun t => x.bind fun b => G b t := by
  intro a r ha
  obtain ⟨b, hb, h⟩ := Option.bind_eq_some_iff.mp ha
  obtain ⟨hr, hG⟩ := hG b a r h
  exact ⟨hr, fun t => Option.bind_eq_some_iff.mpr ⟨b, hb, hG t⟩⟩

theorem Extends.mapValue (x : Option α) :
    Extends s (x.map fun a => (a, s)) fun t => x.map fun a => (a, s ++ t) := by
  cases x with
  | none => exact .none
  | some a => exact .some

theorem Local.pure (a : α) : Local fun s => some (a, s) := fun _ => .some

theorem Local.append {a : α} {r : List Char} (h : Local R) (hs : R s = some (a, r))
    (t : List Char) : R (s ++ t) = some (a, r ++ t) := (h s a r hs).2 t

end Extends

section Skip

variable {verbose comment : Bool} {s r t : List Char} {c : Char}

/-- Whether the text behind a character belongs to a comment. -/
def commentBehind (comment : Bool) (c : Char) : Bool := if comment then c ≠ '\n' else c = '#'

/-- What is left behind blanks and comments, where the text starts inside a comment or not. -/
def skipBlanks (comment : Bool) : List Char → List Char
  | [] => []
  | c :: r =>
    if comment || Text.isBlank c || c = '#' then skipBlanks (commentBehind comment c) r else c :: r

/-- Whether a text of blanks and comments ends inside a comment. -/
def endsInComment (comment : Bool) (s : List Char) : Bool := s.foldl commentBehind comment

theorem length_skipComment_le (s : List Char) : (skipComment s).length ≤ s.length := by
  induction s with
  | nil => exact Nat.le_refl 0
  | cons c r ih =>
    rw [skipComment]
    split
    · exact Nat.le_succ _
    · exact Nat.le_succ_of_le ih

theorem skipBlanks_true (s : List Char) : skipBlanks true s = skipBlanks false (skipComment s) := by
  induction s with
  | nil => rfl
  | cons c r ih =>
    by_cases hc : c = '\n'
    · simp [skipBlanks, skipComment, commentBehind, hc]
    · simpa [skipBlanks, skipComment, commentBehind, hc] using ih

theorem skipVerbose_eq {n : Nat} (h : s.length ≤ n) : skipVerbose n s = skipBlanks false s := by
  induction n generalizing s with
  | zero =>
    cases List.eq_nil_of_length_eq_zero (Nat.le_zero.mp h)
    rfl
  | succ n ih =>
    cases s with
    | nil => rfl
    | cons c r =>
      have hr : r.length ≤ n := Nat.le_of_succ_le_succ h
      rw [skipVerbose, skipBlanks, ih hr, ih (Nat.le_trans (length_skipComment_le r) hr),
        ← skipBlanks_true]
      have hnumber : Text.isBlank '#' = false := rfl
      by_cases hc : c = '#'
      · simp [hc, hnumber, commentBehind]
      · by_cases hb : Text.isBlank c = true <;> simp [hb, hc, commentBehind]

theorem skip_eq (verbose : Bool) (s : List Char) :
    skip verbose s = if verbose then skipBlanks false s else s := by
  rw [skip, skipVerbose_eq (Nat.le_refl _)]

theorem skipBlanks_append (comment : Bool) (s t : List Char) : skipBlanks comment (s ++ t) =
    if skipBlanks comment s = [] then skipBlanks (endsInComment comment s) t
    else skipBlanks comment s ++ t := by
  induction s generalizing comment with
  | nil => rfl
  | cons c r ih =>
    rw [List.cons_append, skipBlanks, skipBlanks]
    split
    · exact ih _
    · rfl

@[simp] theorem skip_nil (verbose : Bool) : skip verbose [] = [] := by
  cases verbose <;> rfl

theorem skip_append (h : skip verbose s ≠ []) (t : List Char) :
    skip verbose (s ++ t) = skip verbose s ++ t := by
  rw [skip_eq] at h ⊢
  rw [skip_eq]
  cases verbose with
  | false => rfl
  | true =>
    rw [if_pos rfl] at h ⊢
    rw [if_pos rfl, skipBlanks_append, if_neg h]

theorem skip_append_cons (h : skip verbose s = c :: r) (t : List Char) :
    skip verbose (s ++ t) = c :: (r ++ t) := by
  rw [skip_append (h ▸ List.cons_ne_nil c r), h, List.cons_append]

/-- Behind a text that is skipped up to its end, and outside a comment there, skipping goes on. -/
theorem skip_append_of_closed (h : skip verbose s = [])
    (hs : verbose = true → endsInComment false s = false) (t : List Char) :
    skip verbose (s ++ t) = skip verbose t := by
  rw [skip_eq] at h ⊢
  rw [skip_eq]
  cases verbose with
  | false => rw [if_neg Bool.false_ne_true] at h; simp [h]
  | true =>
    rw [if_pos rfl] at h ⊢
    rw [if_pos rfl, skipBlanks_append, if_pos h, hs rfl]

theorem skipBlanks_comment (h : '\n' ∉ t) : skipBlanks true t = [] := by
  induction t with
  | nil => rfl
  | cons c t ih =>
    have hc : c ≠ '\n' := (List.ne_of_not_mem_cons h).symm
    simpa [skipBlanks, commentBehind, hc] using ih (List.not_mem_of_not_mem_cons h)

/-- A comment takes in what is put behind it on the same line. -/
theorem skip_append_of_open (h : skip verbose s = []) (hverbose : verbose = true)
    (hs : endsInComment false s = true) (ht : '\n' ∉ t) : skip verbose (s ++ t) = [] := by
  subst verbose
  rw [skip_eq, if_pos rfl] at h ⊢
  rw [skipBlanks_append, if_pos h, hs, skipBlanks_comment ht]

/-- Where a comment is open, it was opened by a number sign on the last line. -/
theorem exists_comment (h : endsInComment comment s = true) :
    comment = true ∧ '\n' ∉ s ∨
      ∃ before rest, s = before ++ '#' :: rest ∧ '\n' ∉ rest := by
  induction s generalizing comment with
  | nil => exact .inl ⟨h, List.not_mem_nil⟩
  | cons c r ih =>
    obtain ⟨hbehind, hr⟩ | ⟨before, rest, rfl, hrest⟩ := ih h
    · unfold commentBehind at hbehind
      split at hbehind
      · have hc : '\n' ≠ c := (of_decide_eq_true hbehind).symm
        exact .inl ⟨‹_›, List.not_mem_cons_of_ne_of_not_mem hc hr⟩
      · cases of_decide_eq_true hbehind
        exact .inr ⟨[], r, rfl, hr⟩
    · exact .inr ⟨c :: before, rest, rfl, hrest⟩

theorem skipBlanks_suffix (comment : Bool) (s : List Char) : skipBlanks comment s <:+ s := by
  induction s generalizing comment with
  | nil => exact List.suffix_rfl
  | cons c r ih =>
    rw [skipBlanks]
    split
    · exact (ih _).trans (List.suffix_cons c r)
    · exact List.suffix_rfl

theorem skip_suffix (verbose : Bool) (s : List Char) : skip verbose s <:+ s := by
  rw [skip_eq]
  split
  · exact skipBlanks_suffix false s
  · exact List.suffix_rfl

theorem length_skip_le (verbose : Bool) (s : List Char) : (skip verbose s).length ≤ s.length :=
  (skip_suffix verbose s).length_le

theorem suffix_of_skip (h : skip verbose s = c :: r) : r <:+ s :=
  (List.suffix_cons c r).trans (h ▸ skip_suffix verbose s)

theorem skip_closing (h : t.head? = some ')') : skip verbose t = t := by
  cases t with
  | nil => cases h
  | cons c t =>
    cases h
    rw [skip_eq]
    cases verbose <;> rfl

end Skip

section Readers

variable {α : Type} {verbose : Bool}

/-- A reader that takes a character first, behind what verbose mode skips. -/
theorem Local.ofSkip (verbose : Bool) {R : Reader α} {f : Char → Reader α}
    (hnil : ∀ s, skip verbose s = [] → R s = none)
    (hcons : ∀ s c r, skip verbose s = c :: r → R s = f c r) (hf : ∀ c, Local (f c)) : Local R := by
  intro s
  cases hs : skip verbose s with
  | nil =>
    rw [hnil s hs]
    exact .none
  | cons c r =>
    have happend (t : List Char) : R (s ++ t) = f c (r ++ t) := hcons _ c _ (skip_append_cons hs t)
    rw [hcons s c r hs, funext happend]
    exact (hf c r).mono (suffix_of_skip hs)

theorem local_readHexFixed (verbose : Bool) (n count : Nat) :
    Local (readHexFixed verbose n count) := by
  induction count generalizing n with
  | zero => exact .pure n
  | succ count ih =>
    refine .ofSkip verbose (f := fun c r => (Unicode.hexDigit? c).bind fun d =>
      readHexFixed verbose (16 * n + d) count r) (fun s h => ?_) (fun s c r h => ?_) fun c r => ?_
    · rw [readHexFixed, h]
    · rw [readHexFixed, h]
      rfl
    · exact .bindValue fun d => ih (16 * n + d) r

theorem length_readHexFixed {n count a : Nat} {s r : List Char}
    (h : readHexFixed verbose n count s = some (a, r)) : r.length + count ≤ s.length := by
  induction count generalizing n s with
  | zero =>
    cases h
    exact Nat.le_refl _
  | succ count ih =>
    rw [readHexFixed] at h
    split at h
    · rename_i c s' hs
      obtain ⟨d, -, h⟩ := Option.bind_eq_some_iff.mp h
      have hrest := ih h
      have hskip := length_skip_le verbose s
      rw [hs, List.length_cons] at hskip
      omega
    · cases h

theorem readHexBraced_cons {fuel : Nat} {n : Option Nat} {s r : List Char} {c : Char}
    (h : skip verbose s = c :: r) : readHexBraced verbose (fuel + 1) n s =
      if c = '\x7d' then n.map fun n => (n, r)
      else (Unicode.hexDigit? c).bind fun d =>
        readHexBraced verbose fuel (some (16 * n.getD 0 + d)) r := by
  conv => lhs; unfold readHexBraced; rw [h]
  rfl

theorem exists_of_readHexBraced {fuel : Nat} {n : Option Nat} {s : List Char} {p : Nat × List Char}
    (h : readHexBraced verbose fuel n s = some p) :
    ∃ fuel' c r, fuel = fuel' + 1 ∧ skip verbose s = c :: r := by
  cases hs : skip verbose s with
  | nil => rw [readHexBraced.eq_def, hs] at h; cases fuel <;> cases h
  | cons c r =>
    cases fuel with
    | zero => rw [readHexBraced.eq_def, hs] at h; cases h
    | succ fuel => exact ⟨fuel, c, r, rfl, rfl⟩

/-- More fuel and more text do no harm. -/
theorem extends_readHexBraced {fuel : Nat} {fuel' : List Char → Nat} (hle : ∀ t, fuel ≤ fuel' t)
    (n : Option Nat) (s : List Char) : Extends s (readHexBraced verbose fuel n s) fun t =>
      readHexBraced verbose (fuel' t) n (s ++ t) := by
  induction fuel generalizing fuel' n s with
  | zero =>
    intro a r h
    obtain ⟨_, _, _, h0, _⟩ := exists_of_readHexBraced h
    cases h0
  | succ fuel ih =>
    intro a r h
    obtain ⟨_, c, r', ⟨⟩, hs⟩ := exists_of_readHexBraced h
    obtain ⟨m, rfl⟩ : ∃ m : List Char → Nat, fuel' = fun t => m t + 1 :=
      ⟨fun t => fuel' t - 1, funext fun t =>
        (Nat.sub_add_cancel (Nat.le_trans (Nat.le_add_left 1 fuel) (hle t))).symm⟩
    have hread : Extends r' (readHexBraced verbose (fuel + 1) n s) fun t =>
        readHexBraced verbose (m t + 1) n (s ++ t) := by
      simp only [readHexBraced_cons hs, readHexBraced_cons (skip_append_cons hs _)]
      refine .ite (.mapValue n) (.bindValue fun d => ?_)
      exact ih (fun t => Nat.le_of_succ_le_succ (hle t)) _ r'
    exact hread.mono (suffix_of_skip hs) a r h

/-- A character of a code point in braces, the opening one already taken. -/
def readHexInBraces (verbose : Bool) : Reader Atom := fun r =>
  (readHexBraced verbose (r.length + 1) none r).bind fun p =>
    (charOf? p.1).bind fun c => some (.literal c false, p.2)

/-- The number of digits behind a letter. -/
def hexCount (letter : Char) : Nat := if letter = 'x' then 2 else if letter = 'u' then 4 else 8

/-- A character of a code point with a fixed number of digits, behind its first one. -/
def readHexDigits (verbose : Bool) (letter first : Char) : Reader Atom := fun r =>
  (readHexFixed verbose 0 (hexCount letter) (first :: r)).bind fun p =>
    (charOf? p.1).bind fun c => some (.literal c (letter = 'x'), p.2)

theorem local_readHexInBraces (verbose : Bool) : Local (readHexInBraces verbose) := by
  intro s
  refine .bind (G := fun n r => (charOf? n).bind fun c => some (Atom.literal c false, r)) ?_
    fun n r => ?_
  · exact extends_readHexBraced (fun t => by simp) none s
  · exact .bindValue fun c => .some

theorem extends_readHexFixed {count : Nat} (hcount : count ≠ 0) (n : Nat) (first : Char)
    (s : List Char) : Extends s (readHexFixed verbose n count (first :: s)) fun t =>
      readHexFixed verbose n count (first :: s ++ t) := by
  intro a r h
  obtain ⟨hr, hF⟩ := local_readHexFixed verbose n count (first :: s) a r h
  refine ⟨(List.suffix_cons_iff.mp hr).resolve_left ?_, hF⟩
  rintro rfl
  have := length_readHexFixed h
  omega

theorem hexCount_ne_zero (letter : Char) : hexCount letter ≠ 0 := by
  unfold hexCount
  split
  · exact Nat.succ_ne_zero 1
  · split <;> exact Nat.succ_ne_zero _

theorem local_readHexDigits (verbose : Bool) (letter first : Char) :
    Local (readHexDigits verbose letter first) := by
  intro s
  refine .bind (G := fun n r => (charOf? n).bind fun c => some (Atom.literal c (letter = 'x'), r))
    ?_ fun n r => ?_
  · exact extends_readHexFixed (hexCount_ne_zero letter) 0 first s
  · exact .bindValue fun c => .some

theorem local_readHex (verbose : Bool) (letter : Char) : Local (readHex verbose letter) := by
  refine .ofSkip verbose
    (f := fun c => if c = '\x7b' then readHexInBraces verbose else readHexDigits verbose letter c)
    (fun s h => ?_) (fun s c r h => ?_) fun c => ?_
  · unfold readHex
    rw [h]
    have hnil (count : Nat) (hcount : count ≠ 0) : readHexFixed verbose 0 count [] = none := by
      cases count with
      | zero => exact absurd rfl hcount
      | succ count => cases verbose <;> rfl
    simp only []
    split
    · simp [hnil]
    · split <;> simp [hnil]
  · unfold readHex
    rw [h]
    by_cases hc : c = '\x7b'
    · cases hc
      rfl
    · rw [if_neg hc]
      split
      · simp_all
      · rfl
  · split
    · exact local_readHexInBraces verbose
    · exact local_readHexDigits verbose letter c

theorem readBraced_cons {fuel : Nat} {name s r : List Char} {c : Char}
    (h : skip verbose s = c :: r) :
    readBraced verbose (fuel + 1) name s =
      if c = '\x7d' then some (name.reverse, r) else readBraced verbose fuel (c :: name) r := by
  conv => lhs; unfold readBraced; rw [h]

theorem exists_of_readBraced {fuel : Nat} {name s : List Char} {p : List Char × List Char}
    (h : readBraced verbose fuel name s = some p) :
    ∃ fuel' c r, fuel = fuel' + 1 ∧ skip verbose s = c :: r := by
  cases hs : skip verbose s with
  | nil => rw [readBraced.eq_def, hs] at h; cases fuel <;> cases h
  | cons c r =>
    cases fuel with
    | zero => rw [readBraced.eq_def, hs] at h; cases h
    | succ fuel => exact ⟨fuel, c, r, rfl, rfl⟩

theorem extends_readBraced {fuel : Nat} {fuel' : List Char → Nat} (hle : ∀ t, fuel ≤ fuel' t)
    (name s : List Char) : Extends s (readBraced verbose fuel name s) fun t =>
      readBraced verbose (fuel' t) name (s ++ t) := by
  induction fuel generalizing fuel' name s with
  | zero =>
    intro a r h
    obtain ⟨_, _, _, h0, _⟩ := exists_of_readBraced h
    cases h0
  | succ fuel ih =>
    intro a r h
    obtain ⟨_, c, r', ⟨⟩, hs⟩ := exists_of_readBraced h
    obtain ⟨m, rfl⟩ : ∃ m : List Char → Nat, fuel' = fun t => m t + 1 :=
      ⟨fun t => fuel' t - 1, funext fun t =>
        (Nat.sub_add_cancel (Nat.le_trans (Nat.le_add_left 1 fuel) (hle t))).symm⟩
    have hread : Extends r' (readBraced verbose (fuel + 1) name s) fun t =>
        readBraced verbose (m t + 1) name (s ++ t) := by
      simp only [readBraced_cons hs, readBraced_cons (skip_append_cons hs _)]
      exact .ite .some (ih (fun t => Nat.le_of_succ_le_succ (hle t)) (c :: name) r')
    exact hread.mono (suffix_of_skip hs) a r h

/-- A property behind `p`, of which `c` is the first character. -/
def readPropertyFrom (verbose negated : Bool) (c : Char) : Reader Atom := fun r =>
  if c = '\x7b' then (readBraced verbose (r.length + 1) [] r).map fun p =>
    (.property negated (.ofText p.1), p.2)
  else if c = '\\' then none
  else some (.property negated (.name c.toString), r)

theorem local_readProperty (verbose negated : Bool) : Local (readProperty verbose negated) := by
  refine .ofSkip verbose (f := readPropertyFrom verbose negated)
    (fun s h => ?_) (fun s c r h => ?_) fun c s => ?_
  · rw [readProperty, h]
  · rw [readProperty, h]
    unfold readPropertyFrom
    simp only []
    split
    · cases readBraced verbose (r.length + 1) [] r <;> rfl
    · rfl
  · refine .ite (.map ?_ fun name => Atom.property negated (.ofText name)) (.ite .none .some)
    exact extends_readBraced (fun t => by simp) [] s

theorem local_readGroupName (name : List Char) : Local (readGroupName name) := by
  intro s
  induction s generalizing name with
  | nil => exact .none
  | cons c s ih =>
    have hread : Extends s (readGroupName name (c :: s)) fun t =>
        readGroupName name (c :: s ++ t) :=
      .ite (.ite .none .some) (.ite (ih (c :: name)) .none)
    exact hread.mono (List.suffix_cons c s)

theorem local_readFlags (seen : FlagSettings) (off dangling : Bool) :
    Local (readFlags seen off dangling) := by
  intro s
  induction s generalizing seen off dangling with
  | nil => exact .none
  | cons c s ih =>
    have hread : Extends s (readFlags seen off dangling (c :: s)) fun t =>
        readFlags seen off dangling (c :: s ++ t) :=
      .ite (.ite .none .some) (.ite (.ite .none (ih seen true true))
        (.bindValue fun f => .ite .none (ih ((f, !off) :: seen) off false)))
    exact hread.mono (List.suffix_cons c s)

end Readers

section Runs

variable {verbose : Bool} {p : Char → Bool}

theorem name_of_pos {fuel : Nat} {acc r : List Char} {c : Char} (h : p c = true) :
    readBoundary.name verbose p (fuel + 1) acc (c :: r) =
      readBoundary.name verbose p fuel (c :: acc) (skip verbose r) := by
  rw [readBoundary.name, if_pos h]

theorem name_of_neg {fuel : Nat} {acc r : List Char} {c : Char} (h : ¬ p c = true) :
    readBoundary.name verbose p (fuel + 1) acc (c :: r) = (acc.reverse, c :: r) := by
  rw [readBoundary.name, if_neg h]

theorem name_nil {fuel : Nat} {acc : List Char} :
    readBoundary.name verbose p fuel acc [] = (acc.reverse, []) := by
  cases fuel <;> rfl

/-- A run of characters of a kind, blanks between them skipped, ends where it ended if something
was left there. -/
theorem name_append {fuel fuel' : Nat} {acc s n r t : List Char}
    (h : readBoundary.name verbose p fuel acc s = (n, r)) (hr : r ≠ []) (hfuel : s.length ≤ fuel)
    (hfuel' : (s ++ t).length ≤ fuel') :
    readBoundary.name verbose p fuel' acc (s ++ t) = (n, r ++ t) := by
  induction fuel generalizing fuel' acc s with
  | zero =>
    cases List.eq_nil_of_length_eq_zero (Nat.le_zero.mp hfuel)
    cases h
    exact absurd rfl hr
  | succ fuel ih =>
    cases s with
    | nil =>
      cases h
      exact absurd rfl hr
    | cons c s =>
      obtain ⟨m, rfl⟩ : ∃ m, fuel' = m + 1 := ⟨fuel' - 1, by simp at hfuel'; omega⟩
      by_cases hc : p c = true
      · rw [name_of_pos hc] at h
        have hs : skip verbose s ≠ [] := by
          intro hs
          rw [hs, name_nil] at h
          cases h
          exact hr rfl
        rw [List.cons_append, name_of_pos hc, skip_append hs]
        have hskip := length_skip_le verbose s
        refine ih h ?_ ?_
        · simp only [List.length_cons] at hfuel
          omega
        · simp only [List.length_cons, List.cons_append, List.length_append] at hfuel' ⊢
          omega
      · rw [name_of_neg hc] at h
        cases h
        rw [List.cons_append, name_of_neg hc]

theorem name_suffix (fuel : Nat) (acc s : List Char) :
    (readBoundary.name verbose p fuel acc s).2 <:+ s := by
  induction fuel generalizing acc s with
  | zero => exact List.suffix_rfl
  | succ fuel ih =>
    cases s with
    | nil => exact List.suffix_rfl
    | cons c s =>
      by_cases hc : p c = true
      · rw [name_of_pos hc]
        exact ((ih _ _).trans (skip_suffix verbose s)).trans (List.suffix_cons c s)
      · exact name_of_neg hc ▸ List.suffix_rfl

theorem go_eq_name (fuel : Nat) (ds s : List Char) :
    readDecimal.go verbose fuel ds s = readBoundary.name verbose Char.isDigit fuel ds s := by
  induction fuel generalizing ds s with
  | zero => cases s <;> rfl
  | succ fuel ih =>
    cases s with
    | nil => rfl
    | cons c s => rw [readDecimal.go, readBoundary.name, ih]

theorem dropWhile_append {s : List Char} (h : s.dropWhile p ≠ []) (t : List Char) :
    (s ++ t).dropWhile p = s.dropWhile p ++ t := by
  rw [List.dropWhile_append, if_neg]
  simpa using h

/-- The number of a run of digits, if it has any and is not too large. -/
def decimalOf (verbose : Bool) (run : List Char × List Char) : Option (Nat × List Char) :=
  let n := run.1.foldl (fun n c => 10 * n + (c.toNat - '0'.toNat)) 0
  if run.1 = [] ∨ 0x100000000 ≤ n then none
  else some (n, skip verbose (run.2.dropWhile Text.isBlank))

theorem readDecimal_eq (s : List Char) : readDecimal verbose s = decimalOf verbose
    (readBoundary.name verbose Char.isDigit s.length [] (s.dropWhile Text.isBlank)) := by
  unfold readDecimal
  rw [go_eq_name]
  rfl

/-- A number behind which something is left stays as it is. -/
theorem readDecimal_append {s r : List Char} {n : Nat} (h : readDecimal verbose s = some (n, r))
    (hr : r ≠ []) (t : List Char) : readDecimal verbose (s ++ t) = some (n, r ++ t) := by
  rw [readDecimal_eq] at h ⊢
  obtain ⟨⟨ds, r'⟩, hrun⟩ : ∃ run, readBoundary.name verbose Char.isDigit s.length []
    (s.dropWhile Text.isBlank) = run := ⟨_, rfl⟩
  rw [hrun] at h
  unfold decimalOf at h
  dsimp only at h
  split at h
  · cases h
  · rename_i hds
    cases h
    have hblank : r'.dropWhile Text.isBlank ≠ [] := by
      intro h0
      rw [h0, skip_nil] at hr
      exact hr rfl
    have hr' : r' ≠ [] := by
      rintro rfl
      exact hblank rfl
    have hs : s.dropWhile Text.isBlank ≠ [] := by
      intro h0
      rw [h0, name_nil] at hrun
      cases hrun
      exact hr' rfl
    have hlength := (List.dropWhile_sublist Text.isBlank (l := s)).length_le
    rw [dropWhile_append hs, name_append hrun hr' hlength (by simpa using hlength), decimalOf,
      if_neg hds, dropWhile_append hblank, skip_append hr]

theorem readDecimal_suffix {s r : List Char} {n : Nat} (h : readDecimal verbose s = some (n, r)) :
    r <:+ s := by
  rw [readDecimal_eq] at h
  unfold decimalOf at h
  dsimp only at h
  split at h
  · cases h
  · cases h
    exact ((skip_suffix verbose _).trans (List.dropWhile_suffix _)).trans
      ((name_suffix _ _ _).trans (List.dropWhile_suffix _))

/-- The boundary that a name in braces stands for. -/
def boundaryOf? (name : String) : Option Assertion :=
  if name = "start" then some .wordStart
  else if name = "end" then some .wordEnd
  else if name = "start-half" then some .wordStartHalf
  else if name = "end-half" then some .wordEndHalf
  else none

/-- A boundary by its name and the brace behind that. -/
def boundaryNamed (run : List Char × List Char) : Option (Assertion × List Char) :=
  if run.2.head? = some '\x7d' then
    (boundaryOf? (String.ofList run.1)).map fun a => (a, run.2.tail)
  else none

/-- A character of the name of a boundary. -/
def isBoundaryChar (c : Char) : Bool := c.isAlpha || c = '-'

theorem readBoundary_plain {s : List Char} (h : s.head? ≠ some '\x7b') :
    readBoundary verbose s = some (.wordBoundary, s) := by
  unfold readBoundary
  split
  · exact absurd rfl h
  · rfl

theorem readBoundary_brace {s r : List Char} {c : Char} (h : skip verbose s = c :: r) :
    readBoundary verbose ('\x7b' :: s) = if isBoundaryChar c then
        boundaryNamed (readBoundary.name verbose isBoundaryChar (r.length + 1) [] (c :: r))
      else some (.wordBoundary, '\x7b' :: s) := by
  have hchar (c : Char) : (c.isAlpha || c = '-') = isBoundaryChar c := rfl
  unfold readBoundary
  simp only [h, hchar]
  split
  · generalize readBoundary.name verbose isBoundaryChar (r.length + 1) [] (c :: r) = run
    obtain ⟨n, r'⟩ := run
    unfold boundaryNamed boundaryOf?
    split
    · rename_i hrun
      cases hrun
      split <;> simp_all
    · rename_i hrun
      rw [if_neg fun h0 => ?_]
      obtain ⟨r'', h0⟩ := List.head?_eq_some_iff.mp h0
      exact hrun n r'' (by rw [← h0])
  · rfl

theorem readBoundary_brace_nil {s : List Char} (h : skip verbose s = []) :
    readBoundary verbose ('\x7b' :: s) = none := by
  unfold readBoundary
  simp only [h]

theorem readBoundary_append {s r : List Char} {a : Assertion}
    (h : readBoundary verbose s = some (a, r)) {t : List Char}
    (ht : r ≠ [] ∨ t.head? ≠ some '\x7b') :
    readBoundary verbose (s ++ t) = some (a, r ++ t) := by
  by_cases hs : s.head? = some '\x7b'
  · obtain ⟨s, rfl⟩ := List.head?_eq_some_iff.mp hs
    cases hskip : skip verbose s with
    | nil =>
      rw [readBoundary_brace_nil hskip] at h
      cases h
    | cons c s' =>
      rw [readBoundary_brace hskip] at h
      rw [List.cons_append, readBoundary_brace (skip_append_cons hskip t)]
      split
      · rw [if_pos ‹_›] at h
        obtain ⟨⟨n, r'⟩, hrun⟩ : ∃ run, readBoundary.name verbose isBoundaryChar
          (s'.length + 1) [] (c :: s') = run := ⟨_, rfl⟩
        rw [hrun] at h
        unfold boundaryNamed at h
        split at h
        · obtain ⟨r', rfl⟩ := List.head?_eq_some_iff.mp ‹_›
          have happend := name_append hrun (List.cons_ne_nil _ _) (Nat.le_refl _)
            (Nat.le_refl (c :: s' ++ t).length)
          obtain ⟨b, hb, h⟩ := Option.map_eq_some_iff.mp h
          cases h
          change boundaryNamed (readBoundary.name verbose isBoundaryChar (c :: s' ++ t).length []
            (c :: s' ++ t)) = _
          rw [happend]
          simp [boundaryNamed, hb]
        · cases h
      · rw [if_neg ‹_›] at h
        cases h
        rfl
  · rw [readBoundary_plain hs] at h
    cases h
    rw [readBoundary_plain]
    cases s with
    | nil => exact ht.resolve_left fun h => h rfl
    | cons c s => exact hs

theorem readBoundary_suffix {s r : List Char} {a : Assertion}
    (h : readBoundary verbose s = some (a, r)) : r <:+ s := by
  by_cases hs : s.head? = some '\x7b'
  · obtain ⟨s, rfl⟩ := List.head?_eq_some_iff.mp hs
    cases hskip : skip verbose s with
    | nil =>
      rw [readBoundary_brace_nil hskip] at h
      cases h
    | cons c s' =>
      rw [readBoundary_brace hskip] at h
      split at h
      · unfold boundaryNamed at h
        split at h
        · obtain ⟨b, -, h⟩ := Option.map_eq_some_iff.mp h
          cases h
          have hname : (readBoundary.name verbose isBoundaryChar (s'.length + 1) [] (c :: s')).2 <:+
              c :: s' := name_suffix _ _ _
          have hs' : c :: s' <:+ '\x7b' :: s :=
            (hskip ▸ skip_suffix verbose s).trans (List.suffix_cons _ s)
          exact ((List.tail_suffix _).trans hname).trans hs'
        · cases h
      · cases h
        exact List.suffix_rfl
  · rw [readBoundary_plain hs] at h
    cases h
    exact List.suffix_rfl

/-- An escape other than the boundary of a word stays as it is. -/
theorem extends_readEscape {c : Char} (hc : c ≠ 'b') (s : List Char) :
    Extends s (readEscape verbose (c :: s)) fun t => readEscape verbose (c :: s ++ t) := by
  unfold readEscape
  dsimp only [List.cons_append]
  split
  -- Numbers and properties go on reading; every other escape is a single letter.
  all_goals
    first
    | exact absurd rfl hc
    | exact (local_readHex verbose _ s).map Escaped.atom
    | exact (local_readProperty verbose _ s).map Escaped.atom
    | exact .some
    | exact .ite .some .none

/-- An escape behind which something is left stays as it is, and so does one at the end of the text
unless an opening brace is put there. -/
theorem readEscape_append {s r : List Char} {e : Escaped} (h : readEscape verbose s = some (e, r))
    {t : List Char} (ht : r ≠ [] ∨ t.head? ≠ some '\x7b') :
    readEscape verbose (s ++ t) = some (e, r ++ t) := by
  cases s with
  | nil => cases h
  | cons c s =>
    by_cases hb : c = 'b'
    · subst hb
      obtain ⟨⟨a, r'⟩, ha, h⟩ := Option.map_eq_some_iff.mp h
      cases h
      exact Option.map_eq_some_iff.mpr ⟨_, readBoundary_append ha ht, rfl⟩
    · exact (extends_readEscape hb s e r h).2 t

theorem readEscape_suffix {s r : List Char} {e : Escaped} (h : readEscape verbose s = some (e, r)) :
    r <:+ s := by
  cases s with
  | nil => cases h
  | cons c s =>
    refine List.IsSuffix.trans ?_ (List.suffix_cons c s)
    by_cases hb : c = 'b'
    · subst hb
      obtain ⟨⟨a, r'⟩, ha, h⟩ := Option.map_eq_some_iff.mp h
      cases h
      exact readBoundary_suffix ha
    · exact (extends_readEscape hb s e r h).1

/-- A single character or class, where that is what was escaped. -/
def Escaped.atom? : Escaped → Option Atom
  | .atom a => some a
  | .assertion _ => none

theorem local_escapedAtom (verbose : Bool) :
    Local fun s => (readEscape verbose s).bind fun p => p.1.atom?.map fun a => (a, p.2) := by
  intro s
  cases s with
  | nil => exact .none
  | cons c s =>
    by_cases hb : c = 'b'
    · subst hb
      intro a r h
      obtain ⟨⟨e, r'⟩, he, h⟩ := Option.bind_eq_some_iff.mp h
      obtain ⟨⟨b, r''⟩, -, hp⟩ := Option.map_eq_some_iff.mp he
      cases hp
      cases h
    · exact Extends.mono (.bind (G := fun e r => e.atom?.map fun a => (a, r))
        (extends_readEscape hb s) fun e r => .mapValue e.atom?) (List.suffix_cons c s)

end Runs

end DeclRules.Pattern

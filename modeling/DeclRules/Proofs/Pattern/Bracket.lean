import DeclRules.Pattern.Bracket
import DeclRules.Proofs.Pattern.Scan
import Mathlib.Data.List.TakeDrop
import Mathlib.Data.List.TakeWhile

/-! # Classes in brackets and what is behind them

A class ends at the bracket that closes it, so that it is read alike whatever text is behind
(`local_readBracket`). Inside the brackets the reader looks ahead, for a hyphen, for an operator or
for a class with a name; but a class that ends has a closing bracket still to come there, and no
look ahead goes further than that. -/

namespace DeclRules.Pattern.Bracket

variable {verbose : Bool}

theorem readAtom_cons (c : Char) (s : List Char) : readAtom verbose (c :: s) =
    if c = '\\' then (readEscape verbose s).bind fun p => p.1.atom?.map fun a => (a, p.2)
    else some (.literal c false, s) := by
  split
  · subst c
    simp only [readAtom]
    rcases readEscape verbose s with _ | ⟨_ | _, _⟩ <;> rfl
  · unfold readAtom
    split
    · contradiction
    · simp_all
    · rename_i h
      cases h
      rfl

theorem extends_readAtom (c : Char) (s : List Char) :
    Extends s (readAtom verbose (c :: s)) fun t => readAtom verbose (c :: s ++ t) := by
  simp only [readAtom_cons, List.cons_append]
  exact .ite (local_escapedAtom verbose s) .some

theorem local_readAtom (verbose : Bool) : Local (readAtom verbose) := by
  intro s
  cases s with
  | nil => exact .none
  | cons c s => exact (extends_readAtom c s).mono (List.suffix_cons c s)

section Range

theorem peek_append {comment : Bool} {s : List Char} {c : Char}
    (h : peek verbose comment s = some c)
    (t : List Char) : peek verbose comment (s ++ t) = some c := by
  induction s generalizing comment with
  | nil => cases h
  | cons d s ih =>
    rw [List.cons_append, peek]
    rw [peek] at h
    split
    · rwa [if_pos ‹_›] at h
    · rw [if_neg ‹_›] at h
      split
      · rw [if_pos ‹_›] at h
        exact ih h
      · rw [if_neg ‹_›] at h
        split
        · rw [if_pos ‹_›] at h
          exact ih h
        · rwa [if_neg ‹_›] at h

theorem exists_peek_of_skipBlanks {comment comment' : Bool} {s : List Char}
    (h : skipBlanks comment s ≠ []) : ∃ c, peek true comment' s = some c := by
  induction s generalizing comment comment' with
  | nil => exact absurd rfl h
  | cons c s ih =>
    rw [skipBlanks] at h
    rw [peek, if_neg (by simp)]
    split
    · rw [if_pos (by simp_all)] at h
      exact ih h
    · split
      · rw [if_pos (by simp_all)] at h
        exact ih h
      · exact ⟨c, rfl⟩

/-- Where something is left, there is a character to look at. -/
theorem exists_peek {s : List Char} (h : skip verbose s ≠ []) :
    ∃ c, peek verbose false s = some c := by
  rw [skip_eq] at h
  cases verbose with
  | false =>
    obtain ⟨c, r, rfl⟩ := List.exists_cons_of_ne_nil h
    exact ⟨c, rfl⟩
  | true => exact exists_peek_of_skipBlanks h

/-- The range between two single characters. -/
def rangeOf? : Atom → Atom → Option ClassSet
  | .literal c _, .literal d _ => if c ≤ d then some (.range c d) else none
  | _, _ => none

/-- What a hyphen behind a single character or class makes of it. -/
def readHyphen (verbose : Bool) (a : Atom) : Reader ClassSet := fun s =>
  if peek verbose false s = some ']' ∨ peek verbose false s = some '-' then some (.atom a, '-' :: s)
  else (readAtom verbose (skip verbose s)).bind fun p => (rangeOf? a p.1).map fun c => (c, p.2)

/-- What follows a single character or class. -/
def readBehind (verbose : Bool) (a : Atom) : Reader ClassSet := fun s =>
  if skip verbose s = [] then none
  else if (skip verbose s).head? = some '-' then readHyphen verbose a (skip verbose s).tail
  else some (.atom a, skip verbose s)

theorem readRange_eq (s : List Char) : readRange verbose s =
    (readAtom verbose s).bind fun p => readBehind verbose p.1 p.2 := by
  unfold readRange
  cases readAtom verbose s with
  | none => rfl
  | some p =>
    obtain ⟨a, r⟩ := p
    simp only [Option.bind_eq_bind, Option.bind_some, readBehind]
    cases skip verbose r with
    | nil => rfl
    | cons c r =>
      by_cases hc : c = '-'
      · subst hc
        simp only [reduceCtorEq, if_false, List.head?_cons, if_true, List.tail_cons]
        unfold readHyphen
        split
        · rfl
        · cases readAtom verbose (skip verbose r) with
          | none => rfl
          | some q =>
            obtain ⟨b, r⟩ := q
            rcases a with ⟨c, _⟩ | _ | _ <;> rcases b with ⟨d, _⟩ | _ | _ <;> try rfl
            simp only [Option.bind_some, rangeOf?]
            split <;> rfl
      · simp_all

theorem extends_readHyphen (a : Atom) (s : List Char) :
    Extends ('-' :: s) (readHyphen verbose a s) fun t => readHyphen verbose a (s ++ t) := by
  intro b r h
  unfold readHyphen at h
  split at h
  · cases h
    refine ⟨List.suffix_rfl, fun t => if_pos ?_⟩
    obtain hpeek | hpeek := ‹_ ∨ _›
    · exact .inl (peek_append hpeek t)
    · exact .inr (peek_append hpeek t)
  · rename_i hpeek
    have hne : skip verbose s ≠ [] := by
      intro h0
      rw [h0] at h
      cases h
    obtain ⟨c, hc⟩ := exists_peek hne
    have hread := (local_readAtom verbose (skip verbose s)).bind
      (G := fun d r => (rangeOf? a d).map fun c => (c, r)) fun d r => .mapValue (rangeOf? a d)
    obtain ⟨hr, hF⟩ := hread b r h
    refine ⟨(hr.trans (skip_suffix verbose s)).trans (List.suffix_cons '-' s), fun t => ?_⟩
    dsimp only [readHyphen]
    rw [peek_append hc, ← hc, if_neg hpeek, skip_append hne]
    exact hF t

theorem local_readBehind (a : Atom) : Local (readBehind verbose a) := by
  intro s
  unfold readBehind
  cases hs : skip verbose s with
  | nil => exact .none
  | cons c r =>
    simp only [skip_append_cons hs, reduceCtorEq, if_false, List.head?_cons, List.tail_cons,
      Option.some.injEq]
    by_cases hc : c = '-'
    · simp only [if_pos hc]
      exact (extends_readHyphen a r).mono (hc ▸ hs ▸ skip_suffix verbose s)
    · simp only [if_neg hc]
      exact Extends.some.mono (hs ▸ skip_suffix verbose s)

theorem extends_readRange (c : Char) (s : List Char) :
    Extends s (readRange verbose (c :: s)) fun t => readRange verbose (c :: s ++ t) := by
  simp only [readRange_eq]
  exact .bind (extends_readAtom c s) fun a => local_readBehind a

theorem local_readRange (verbose : Bool) : Local (readRange verbose) := by
  intro s
  cases s with
  | nil => exact .none
  | cons c s => exact (extends_readRange c s).mono (List.suffix_cons c s)

end Range

section Opening

theorem leadingHyphens_hyphen {fuel : Nat} {items : List ClassSet} {s : List Char} :
    leadingHyphens verbose (fuel + 1) items ('-' :: s) =
      leadingHyphens verbose fuel (.atom (.literal '-' false) :: items) (skip verbose s) := rfl

theorem leadingHyphens_of_ne {fuel : Nat} {items : List ClassSet} {s : List Char}
    (h : s.head? ≠ some '-') : leadingHyphens verbose fuel items s = (items, s) := by
  unfold leadingHyphens
  split
  · exact absurd rfl h
  · rfl

/-- Hyphens at the start, behind which something is left. -/
theorem leadingHyphens_append {fuel fuel' : Nat} {items items' : List ClassSet} {s r t : List Char}
    (h : leadingHyphens verbose fuel items s = (items', r)) (hr : r ≠ []) (hfuel : s.length ≤ fuel)
    (hfuel' : (s ++ t).length ≤ fuel') :
    leadingHyphens verbose fuel' items (s ++ t) = (items', r ++ t) := by
  induction fuel generalizing fuel' items s with
  | zero =>
    cases List.eq_nil_of_length_eq_zero (Nat.le_zero.mp hfuel)
    cases h
    exact absurd rfl hr
  | succ fuel ih =>
    cases s with
    | nil =>
      cases h
      exact absurd rfl hr
    | cons c s =>
      obtain ⟨m, rfl⟩ : ∃ m, fuel' = m + 1 := ⟨fuel' - 1, by simp at hfuel'; omega⟩
      by_cases hc : c = '-'
      · subst hc
        rw [leadingHyphens_hyphen] at h
        have hs : skip verbose s ≠ [] := by
          intro hs
          rw [hs, leadingHyphens_of_ne (by simp)] at h
          cases h
          exact hr rfl
        rw [List.cons_append, leadingHyphens_hyphen, skip_append hs]
        have hskip := length_skip_le verbose s
        refine ih h ?_ ?_
        · simp only [List.length_cons] at hfuel
          omega
        · simp only [List.length_cons, List.cons_append, List.length_append] at hfuel' ⊢
          omega
      · have hhead (s' : List Char) : (c :: s').head? ≠ some '-' := fun h => hc (Option.some.inj h)
        rw [leadingHyphens_of_ne (hhead s)] at h
        cases h
        exact leadingHyphens_of_ne (hhead (s ++ t))

theorem leadingHyphens_suffix (fuel : Nat) (items : List ClassSet) (s : List Char) :
    (leadingHyphens verbose fuel items s).2 <:+ s := by
  induction fuel generalizing items s with
  | zero => exact List.suffix_rfl
  | succ fuel ih =>
    by_cases hs : s.head? = some '-'
    · obtain ⟨s, rfl⟩ := List.head?_eq_some_iff.mp hs
      rw [leadingHyphens_hyphen]
      exact ((ih _ _).trans (skip_suffix verbose s)).trans (List.suffix_cons '-' s)
    · exact leadingHyphens_of_ne hs ▸ List.suffix_rfl

/-- Whether a class is negated, and what follows the sign for that. -/
def openingSign (verbose : Bool) (s : List Char) : Bool × List Char :=
  if (skip verbose s).head? = some '^' then (true, skip verbose (skip verbose s).tail)
  else (false, skip verbose s)

/-- A closing bracket is literal where nothing stands in front of it. -/
def firstItems (verbose : Bool) (p : List ClassSet × List Char) : List ClassSet × List Char :=
  if p.1.isEmpty ∧ p.2.head? = some ']' then ([.atom (.literal ']' false)], skip verbose p.2.tail)
  else p

theorem opening_eq (s : List Char) : opening verbose s =
    (((openingSign verbose s).1, { items := (firstItems verbose (leadingHyphens verbose
        (openingSign verbose s).2.length [] (openingSign verbose s).2)).1 }),
      (firstItems verbose (leadingHyphens verbose
        (openingSign verbose s).2.length [] (openingSign verbose s).2)).2) := by
  unfold opening
  split
  rename_i negated u hu
  have hsign : openingSign verbose s = (negated, u) := by
    unfold openingSign
    split at hu
    · simp_all
    · rename_i hne
      rwa [if_neg]
      intro h
      obtain ⟨r, hr⟩ := List.head?_eq_some_iff.mp h
      exact hne r hr
  rw [hsign]
  generalize leadingHyphens verbose u.length [] u = p
  obtain ⟨items, w⟩ := p
  dsimp only
  split
  · rfl
  · rename_i hne
    rw [firstItems, if_neg]
    rintro ⟨hitems, h⟩
    obtain ⟨r, hr⟩ := List.head?_eq_some_iff.mp h
    exact hne r (List.isEmpty_iff.mp hitems) hr

theorem openingSign_suffix (s : List Char) : (openingSign verbose s).2 <:+ s := by
  unfold openingSign
  split
  · exact ((skip_suffix verbose _).trans (List.tail_suffix _)).trans (skip_suffix verbose s)
  · exact skip_suffix verbose s

theorem openingSign_append {s t : List Char} (h : (openingSign verbose s).2 ≠ []) :
    openingSign verbose (s ++ t) = ((openingSign verbose s).1, (openingSign verbose s).2 ++ t) := by
  cases hs : skip verbose s with
  | nil => simp [openingSign, hs] at h
  | cons c r =>
    by_cases hc : c = '^'
    · have hr : skip verbose r ≠ [] := by simpa [openingSign, hs, hc] using h
      simp [openingSign, hs, skip_append_cons hs t, hc, skip_append hr]
    · simp [openingSign, hs, skip_append_cons hs t, hc]

theorem firstItems_suffix (p : List ClassSet × List Char) : (firstItems verbose p).2 <:+ p.2 := by
  unfold firstItems
  split
  · exact (skip_suffix verbose _).trans (List.tail_suffix _)
  · exact List.suffix_rfl

theorem firstItems_append {items : List ClassSet} {s t : List Char}
    (h : (firstItems verbose (items, s)).2 ≠ []) : firstItems verbose (items, s ++ t) =
      ((firstItems verbose (items, s)).1, (firstItems verbose (items, s)).2 ++ t) := by
  have hs : s ≠ [] := fun h0 => h (List.suffix_nil.mp (h0 ▸ firstItems_suffix (items, s)))
  obtain ⟨c, r, rfl⟩ := List.exists_cons_of_ne_nil hs
  by_cases hc : items = [] ∧ c = ']'
  · have hr : skip verbose r ≠ [] := by simpa [firstItems, hc] using h
    simp [firstItems, hc, skip_append hr]
  · simp [firstItems, hc]

/-- The opening of a class, behind which something is left. -/
theorem opening_append {s r : List Char} {l : Bool × Level} (h : opening verbose s = (l, r))
    (hr : r ≠ []) (t : List Char) : opening verbose (s ++ t) = (l, r ++ t) := by
  rw [opening_eq] at h ⊢
  obtain ⟨⟨negated, u⟩, hsign⟩ : ∃ p, openingSign verbose s = p := ⟨_, rfl⟩
  obtain ⟨⟨items, w⟩, hhyphens⟩ : ∃ p, leadingHyphens verbose u.length [] u = p := ⟨_, rfl⟩
  rw [hsign] at h
  dsimp only at h
  rw [hhyphens] at h
  cases h
  have hw : w ≠ [] := fun h0 => hr (List.suffix_nil.mp (h0 ▸ firstItems_suffix (items, w)))
  have hu : u ≠ [] := by
    rintro rfl
    cases hhyphens
    exact hw rfl
  rw [openingSign_append (by rwa [hsign]), hsign,
    leadingHyphens_append hhyphens hw (Nat.le_refl _) (Nat.le_refl _), firstItems_append hr]

theorem opening_suffix (s : List Char) : (opening verbose s).2 <:+ s := by
  rw [opening_eq]
  exact ((firstItems_suffix _).trans (leadingHyphens_suffix _ _ _)).trans (openingSign_suffix s)

end Opening

section Named

theorem not_mem_of_ofName? {name : List Char} {c : AsciiClass}
    (h : AsciiClass.ofName? (String.ofList name) = some c) : ']' ∉ name := by
  have hspelled {t : String} (hname : String.ofList name = t) (ht : ']' ∉ t.toList) :
      ']' ∉ name := by
    rwa [← hname, String.toList_ofList] at ht
  unfold AsciiClass.ofName? at h
  split at h
  case h_15 => cases h
  all_goals exact hspelled ‹_› (by decide)

/-- The name of a class, a colon and a bracket behind it. -/
def readName (negated : Bool) : Reader ClassSet := fun s =>
  match s.span (· ≠ ':') with
  | (name, ':' :: ']' :: r) =>
    (AsciiClass.ofName? (String.ofList name)).map fun c => (.ascii negated c, r)
  | _ => none

theorem span_append {name r : List Char} (h : ':' ∉ name) :
    (name ++ ':' :: r).span (· ≠ ':') = (name, ':' :: r) := by
  have hname : ∀ c ∈ name, decide (c ≠ ':') = true := fun c hc =>
    decide_eq_true fun h0 => h (h0 ▸ hc)
  rw [List.span_eq_takeWhile_dropWhile, List.takeWhile_append_of_pos hname,
    List.dropWhile_append_of_pos hname]
  simp

theorem exists_of_readName {negated : Bool} {s r : List Char} {c : ClassSet}
    (h : readName negated s = some (c, r)) : ∃ w, s = w ++ ']' :: r ∧ ']' ∉ w ∧
      ∀ r', readName negated (w ++ ']' :: r') = some (c, r') := by
  unfold readName at h
  split at h
  · rename_i name r' hspan
    obtain ⟨a, ha, hp⟩ := Option.map_eq_some_iff.mp h
    cases hp
    rw [List.span_eq_takeWhile_dropWhile, Prod.mk.injEq] at hspan
    obtain ⟨hname, hrest⟩ := hspan
    have hcolon : ':' ∉ name := by
      intro hmem
      rw [← hname] at hmem
      simpa using List.mem_takeWhile_imp hmem
    refine ⟨name ++ [':'], ?_, ?_, fun r' => ?_⟩
    · rw [← List.takeWhile_append_dropWhile (p := (· ≠ ':')) (l := s), hname, hrest]
      simp
    · simpa using not_mem_of_ofName? ha
    · unfold readName
      rw [List.append_assoc, List.singleton_append, span_append hcolon]
      simp [ha]
  · cases h

theorem readAsciiClass_plain {s : List Char} (h : s.head? ≠ some '^') :
    readAsciiClass (':' :: s) = readName false s := by
  cases s with
  | nil => rfl
  | cons c s =>
    have hc : c ≠ '^' := fun hc => h (congrArg some hc)
    simp only [readAsciiClass, List.cons.injEq, hc, false_and, imp_self, implies_true]
    rfl

theorem readAsciiClass_negated (s : List Char) :
    readAsciiClass (':' :: '^' :: s) = readName true s := by
  simp only [readAsciiClass]
  rfl

/-- A class with a name ends at the first closing bracket. -/
theorem exists_of_readAsciiClass {s r : List Char} {c : ClassSet}
    (h : readAsciiClass s = some (c, r)) : ∃ w, s = w ++ ']' :: r ∧ ']' ∉ w ∧
      ∀ r', readAsciiClass (w ++ ']' :: r') = some (c, r') := by
  by_cases hs : s.head? = some ':'
  · obtain ⟨s, rfl⟩ := List.head?_eq_some_iff.mp hs
    by_cases hsign : s.head? = some '^'
    · obtain ⟨s, rfl⟩ := List.head?_eq_some_iff.mp hsign
      rw [readAsciiClass_negated] at h
      obtain ⟨w, rfl, hw, hread⟩ := exists_of_readName h
      refine ⟨':' :: '^' :: w, rfl, by simpa using hw, fun r' => ?_⟩
      exact (readAsciiClass_negated _).trans (hread r')
    · rw [readAsciiClass_plain hsign] at h
      obtain ⟨w, rfl, hw, hread⟩ := exists_of_readName h
      refine ⟨':' :: w, rfl, by simpa using hw, fun r' => ?_⟩
      rw [List.cons_append, readAsciiClass_plain]
      · exact hread r'
      · cases w with
        | nil => simp
        | cons d w => exact hsign
  · unfold readAsciiClass at h
    split at h
    · exact absurd rfl hs
    · cases h

theorem local_readAsciiClass : Local readAsciiClass := by
  intro s c r h
  obtain ⟨w, rfl, -, hread⟩ := exists_of_readAsciiClass h
  refine ⟨⟨w ++ [']'], by simp⟩, fun t => ?_⟩
  simpa using hread (r ++ t)

/-- No class with a name comes up by a text behind, where a closing bracket is there already. -/
theorem readAsciiClass_append_eq_none {s : List Char} (h : readAsciiClass s = none) (hs : ']' ∈ s)
    (t : List Char) : readAsciiClass (s ++ t) = none := by
  cases hst : readAsciiClass (s ++ t) with
  | none => rfl
  | some p =>
    obtain ⟨c, r⟩ := p
    obtain ⟨w, hw, hmem, hread⟩ := exists_of_readAsciiClass hst
    -- The bracket that ends the class is the first one, so it is in `s`.
    obtain ⟨w', rfl, -⟩ | ⟨u, rfl, hu⟩ := List.append_eq_append_iff.mp hw
    · exact absurd (List.mem_append_left w' hs) hmem
    · cases u with
      | nil => exact absurd (by simpa using hs) hmem
      | cons d u =>
        cases hu
        rw [hread u] at h
        cases h

end Named

section Levels

/-- A class that ends has a closing bracket. -/
theorem mem_of_readLevels {fuel : Nat} {negated : Bool} {level : Level}
    {outer : List (Bool × Level)} {s : List Char} {p : (Bool × ClassSet) × List Char}
    (h : readLevels verbose fuel negated level outer s = some p) : ']' ∈ s := by
  induction fuel generalizing negated level outer s with
  | zero => cases h
  | succ fuel ih =>
    rw [readLevels] at h
    refine (skip_suffix verbose s).subset ?_
    split at h
    case h_1 => cases h
    case h_2 r hs =>
      rw [hs]
      refine List.mem_cons_of_mem '[' ?_
      split at h
      · rename_i c r' hclass
        exact (local_readAsciiClass r c r' hclass).1.subset (ih h)
      · exact (opening_suffix r).subset (ih h)
    case h_3 r hs =>
      rw [hs]
      exact List.mem_cons_self
    case h_4 r hs | h_5 r hs | h_6 r hs =>
      rw [hs]
      exact List.mem_cons_of_mem _ (List.mem_cons_of_mem _ (ih h))
    case h_7 =>
      split at h
      · rename_i c r hrange
        exact (local_readRange verbose _ c r hrange).1.subset (ih h)
      · cases h

theorem readLevels_suffix {fuel : Nat} {negated : Bool} {level : Level}
    {outer : List (Bool × Level)} {s r : List Char} {p : Bool × ClassSet}
    (h : readLevels verbose fuel negated level outer s = some (p, r)) : r <:+ s := by
  induction fuel generalizing negated level outer s with
  | zero => cases h
  | succ fuel ih =>
    rw [readLevels] at h
    refine List.IsSuffix.trans ?_ (skip_suffix verbose s)
    split at h
    case h_1 => cases h
    case h_2 r' hs =>
      rw [hs]
      refine List.IsSuffix.trans ?_ (List.suffix_cons '[' r')
      split at h
      · rename_i c r'' hclass
        exact (ih h).trans (local_readAsciiClass r' c r'' hclass).1
      · exact (ih h).trans (opening_suffix r')
    case h_3 r' hs =>
      rw [hs]
      refine List.IsSuffix.trans ?_ (List.suffix_cons ']' r')
      split at h
      · cases h
        exact List.suffix_rfl
      · exact ih h
    case h_4 r' hs | h_5 r' hs | h_6 r' hs =>
      rw [hs]
      exact ((ih h).trans (List.suffix_cons _ r')).trans (List.suffix_cons _ _)
    case h_7 =>
      split at h
      · rename_i c r' hrange
        exact (ih h).trans (local_readRange verbose _ c r' hrange).1
      · cases h

theorem readLevels_append {fuel fuel' : Nat} {negated : Bool} {level : Level}
    {outer : List (Bool × Level)} {s r : List Char} {p : Bool × ClassSet}
    (h : readLevels verbose fuel negated level outer s = some (p, r)) (hle : fuel ≤ fuel')
    (t : List Char) :
    readLevels verbose fuel' negated level outer (s ++ t) = some (p, r ++ t) := by
  induction fuel generalizing fuel' negated level outer s with
  | zero => cases h
  | succ fuel ih =>
    obtain ⟨m, rfl⟩ : ∃ m, fuel' = m + 1 := ⟨fuel' - 1, by omega⟩
    have hle := Nat.le_of_succ_le_succ hle
    rw [readLevels] at h ⊢
    split at h
    case h_1 => cases h
    case h_2 r' hs =>
      simp only [skip_append_cons hs t]
      split at h
      · rename_i c r'' hclass
        simp only [local_readAsciiClass.append hclass t]
        exact ih h hle
      · rename_i hclass
        obtain ⟨⟨⟨negated', level'⟩, r''⟩, hopening⟩ : ∃ p, opening verbose r' = p := ⟨_, rfl⟩
        rw [hopening] at h
        have hmem := mem_of_readLevels h
        have hmem' : ']' ∈ r' := (opening_suffix r').subset (by rwa [hopening])
        simp only [readAsciiClass_append_eq_none hclass hmem' t,
          opening_append hopening (List.ne_nil_of_mem hmem) t]
        exact ih h hle
    case h_3 r' hs =>
      simp only [skip_append_cons hs t]
      split at h
      · cases h
        rfl
      · exact ih h hle
    case h_4 r' hs | h_5 r' hs | h_6 r' hs =>
      simp only [skip_append_cons hs t, List.cons_append]
      exact ih h hle
    case h_7 hnil hopen hclose hand hminus htilde =>
      split at h
      · rename_i c r' hrange
        -- What is left has the closing bracket, so that the text has a second character.
        obtain ⟨d, u, hs⟩ := List.exists_cons_of_ne_nil hnil
        rw [hs] at hrange
        obtain ⟨hr', hF⟩ := extends_readRange d u c r' hrange
        obtain ⟨e, u, rfl⟩ := List.exists_cons_of_ne_nil
          (List.ne_nil_of_mem (hr'.subset (mem_of_readLevels h)))
        rw [hs] at hopen hclose hand hminus htilde
        rw [skip_append_cons hs t]
        split
        case h_7 =>
          simp only [List.cons_append] at hF
          simp only [List.cons_append, hF t]
          exact ih h hle
        all_goals simp_all
      · cases h

/-- A class in brackets is read alike whatever is behind it. -/
theorem local_readBracket (verbose : Bool) : Local (readBracket verbose) := by
  intro s p r h
  unfold readBracket at h ⊢
  obtain ⟨⟨⟨negated, level⟩, r'⟩, hopening⟩ : ∃ p, opening verbose s = p := ⟨_, rfl⟩
  simp only [hopening] at h
  refine ⟨(readLevels_suffix h).trans ?_, fun t => ?_⟩
  · have hsuffix : (opening verbose s).2 <:+ s := opening_suffix s
    rwa [hopening] at hsuffix
  · simp only [opening_append hopening (List.ne_nil_of_mem (mem_of_readLevels h)) t]
    exact readLevels_append h (by simp) t

end Levels

end DeclRules.Pattern.Bracket

import DeclRules.Json.Numeral
import Mathlib

/-! # Number literals

The grammar of number literals: a sign, digits without an idle zero in front, a fraction and an
exponent (`Numeral.Spelled`). The scanner takes exactly the literals, as far as nothing behind them
goes on with a number (`Numeral.scan_of_spelled`, `Numeral.exists_spelled_of_scan`). A literal has
an integer as its value only if that fits 64 bits (`Numeral.inRange_of_value`). -/

namespace DeclRules.Json

/-- A text that cannot go on with a number in front of it. -/
def Ends (rest : List Char) : Prop :=
  ∀ c ∈ rest.head?, c.isDigit = false ∧ c ≠ '.' ∧ c ≠ 'e' ∧ c ≠ 'E'

theorem ends_nil : Ends [] := by simp [Ends]

theorem ends_cons {c : Char} {rest : List Char} (h : c = ',' ∨ c = ']' ∨ c = '}') :
    Ends (c :: rest) := by
  intro c' hc'
  cases Option.some.inj hc'
  rcases h with rfl | rfl | rfl <;> decide

namespace Numeral

/-- One digit or more. -/
def IsDigits (ds : List Char) : Prop := ds ≠ [] ∧ ∀ c ∈ ds, c.isDigit = true

/-- The text of a fraction, which may be missing. -/
inductive FractionSpelled : Option (List Char) → List Char → Prop
  | none : FractionSpelled none []
  | digits {ds : List Char} (h : IsDigits ds) : FractionSpelled (some ds) ('.' :: ds)

/-- The text of an exponent, which may be missing, as may its sign. -/
inductive ExponentSpelled : Option (Bool × List Char) → List Char → Prop
  | none : ExponentSpelled none []
  | bare {e : Char} {ds : List Char} (he : e = 'e' ∨ e = 'E') (h : IsDigits ds) :
    ExponentSpelled (some (false, ds)) (e :: ds)
  | plus {e : Char} {ds : List Char} (he : e = 'e' ∨ e = 'E') (h : IsDigits ds) :
    ExponentSpelled (some (false, ds)) (e :: '+' :: ds)
  | minus {e : Char} {ds : List Char} (he : e = 'e' ∨ e = 'E') (h : IsDigits ds) :
    ExponentSpelled (some (true, ds)) (e :: '-' :: ds)

/-- The text of a number literal. -/
inductive Spelled : Numeral → List Char → Prop
  | mk {negative : Bool} {whole : List Char} {fraction : Option (List Char)}
    {exponent : Option (Bool × List Char)} {f e : List Char} (hwhole : IsDigits whole)
    (hzero : whole.head? = some '0' → whole.length = 1) (hf : FractionSpelled fraction f)
    (he : ExponentSpelled exponent e) :
    Spelled ⟨negative, whole, fraction, exponent⟩
      ((if negative then ['-'] else []) ++ (whole ++ (f ++ e)))

section Sound

theorem of_digits {s ds r : List Char} (h : digits s = (ds, r)) :
    s = ds ++ r ∧ ∀ c ∈ ds, c.isDigit = true := by
  rw [digits, List.span_eq_takeWhile_dropWhile] at h
  cases h
  exact ⟨List.takeWhile_append_dropWhile.symm, fun c hc => List.mem_takeWhile_imp hc⟩

theorem exists_of_scanExponent {s r : List Char} {e : Option (Bool × List Char)}
    (h : scanExponent s = some (e, r)) : ∃ t, s = t ++ r ∧ ExponentSpelled e t := by
  unfold scanExponent at h
  split at h
  · rename_i c r'
    split at h
    · rename_i hc
      have he : c = 'e' ∨ c = 'E' := by simpa using hc
      split at h
      rename_i negative r₁ hsign
      split at h
      · cases h
      · rename_i ds r₂ hne hd
        cases h
        obtain ⟨rfl, hall⟩ := of_digits hd
        have hds : IsDigits ds := ⟨hne, hall⟩
        split at hsign <;> cases hsign
        · exact ⟨c :: '-' :: ds, rfl, .minus he hds⟩
        · exact ⟨c :: '+' :: ds, rfl, .plus he hds⟩
        · exact ⟨c :: ds, rfl, .bare he hds⟩
    · cases h
      exact ⟨[], rfl, .none⟩
  · cases h
    exact ⟨[], rfl, .none⟩

/-- What is scanned is a literal in front of the rest. -/
theorem exists_spelled_of_scan {s r : List Char} {l : Numeral} (h : scan s = some (l, r)) :
    ∃ t, s = t ++ r ∧ l.Spelled t := by
  unfold scan at h
  split at h
  rename_i negative s₁ hsign
  have hs : s = (if negative then ['-'] else []) ++ s₁ := by
    split at hsign <;> cases hsign <;> rfl
  split at h
  · cases h
  · rename_i whole s₂ hne hwhole
    obtain ⟨rfl, hall⟩ := of_digits hwhole
    have hdigits : IsDigits whole := ⟨hne, hall⟩
    split at h
    · cases h
    · rename_i hidle
      have hzero : whole.head? = some '0' → whole.length = 1 := by simpa using hidle
      split at h
      · split at h
        · cases h
        · rename_i fraction s₃ hne' hfraction
          obtain ⟨⟨e, r'⟩, he, hl⟩ := Option.map_eq_some_iff.mp h
          cases hl
          obtain ⟨t, rfl, ht⟩ := exists_of_scanExponent he
          obtain ⟨rfl, hall'⟩ := of_digits hfraction
          have hdigits' : IsDigits fraction := ⟨hne', hall'⟩
          exact ⟨_, by rw [hs]; simp, .mk hdigits hzero (.digits hdigits') ht⟩
      · obtain ⟨⟨e, r'⟩, he, hl⟩ := Option.map_eq_some_iff.mp h
        cases hl
        obtain ⟨t, rfl, ht⟩ := exists_of_scanExponent he
        exact ⟨_, by rw [hs]; simp, .mk hdigits hzero .none ht⟩

end Sound

section Complete

variable {ds rest : List Char}

/-- Digits start with a digit. -/
theorem IsDigits.exists_cons (hds : IsDigits ds) : ∃ d ds', ds = d :: ds' ∧ d.isDigit = true := by
  obtain ⟨d, ds', rfl⟩ := List.exists_cons_of_ne_nil hds.1
  exact ⟨d, ds', rfl, hds.2 d List.mem_cons_self⟩

theorem digits_append {ds rest : List Char} (hds : ∀ c ∈ ds, c.isDigit = true)
    (h : ∀ c ∈ rest.head?, c.isDigit = false) : digits (ds ++ rest) = (ds, rest) := by
  rw [digits, List.span_eq_takeWhile_dropWhile, List.takeWhile_append_of_pos hds,
    List.dropWhile_append_of_pos hds]
  cases rest with
  | nil => simp
  | cons c rest =>
    have hc : c.isDigit = false := h c rfl
    simp [hc]

theorem scanExponent_of_ends {rest : List Char} (h : Ends rest) :
    scanExponent rest = some (none, rest) := by
  cases rest with
  | nil => rfl
  | cons c rest =>
    obtain ⟨-, -, he, hE⟩ := h c rfl
    simp [scanExponent, he, hE]

/-- A literal starts with a sign or a digit. -/
theorem Spelled.exists_cons {l : Numeral} {s : List Char} (h : l.Spelled s) :
    ∃ c r, s = c :: r ∧ (c = '-' ∨ c.isDigit = true) := by
  obtain ⟨hwhole, -, -, -⟩ := h
  rename_i negative whole _ _ f e
  obtain ⟨d, ds, rfl, hd⟩ := hwhole.exists_cons
  cases negative with
  | false => exact ⟨d, _, rfl, .inr hd⟩
  | true => exact ⟨'-', _, rfl, .inl rfl⟩

theorem digits_of_ends (hds : IsDigits ds) (hrest : Ends rest) : digits (ds ++ rest) = (ds, rest) :=
  digits_append hds.2 fun c hc => (hrest c hc).1

/-- In front of digits there is no sign, unless it is written. -/
theorem ne_sign_of_isDigit {c : Char} (h : c.isDigit = true) : c ≠ '-' ∧ c ≠ '+' := by
  constructor <;> rintro rfl <;> exact absurd h (by decide)

theorem scanExponent_of_spelled {e : Option (Bool × List Char)} {t : List Char}
    (h : ExponentSpelled e t) (hrest : Ends rest) :
    scanExponent (t ++ rest) = some (e, rest) := by
  have hletter {c : Char} (he : c = 'e' ∨ c = 'E') : (c == 'e' || c == 'E') = true := by
    simpa using he
  cases h with
  | none => exact scanExponent_of_ends hrest
  | bare he hds =>
    have hdigits := digits_of_ends hds hrest
    obtain ⟨d, ds', rfl, hd⟩ := hds.exists_cons
    obtain ⟨hminus, hplus⟩ := ne_sign_of_isDigit hd
    simp only [List.cons_append] at hdigits
    simp [scanExponent, hletter he, hminus, hplus, hdigits]
  | plus he hds | minus he hds =>
    have hdigits := digits_of_ends hds hrest
    obtain ⟨d, ds', rfl, -⟩ := hds.exists_cons
    simp only [List.cons_append] at hdigits
    simp [scanExponent, hletter he, hdigits]

/-- What follows digits in a literal does not begin with one. -/
theorem head?_of_spelled {e : Option (Bool × List Char)} {t : List Char}
    (h : ExponentSpelled e t) (hrest : Ends rest) :
    ∀ c ∈ (t ++ rest).head?, c.isDigit = false ∧ c ≠ '.' := by
  intro c hc
  cases h with
  | none =>
    obtain ⟨hdigit, hpoint, -, -⟩ := hrest c hc
    exact ⟨hdigit, hpoint⟩
  | bare he _ | plus he _ | minus he _ =>
    cases Option.some.inj hc
    rcases he with rfl | rfl <;> decide

/-- A literal is scanned as the literal it is. -/
theorem scan_of_spelled {l : Numeral} {s : List Char} (h : l.Spelled s) (hrest : Ends rest) :
    scan (s ++ rest) = some (l, rest) := by
  obtain ⟨hwhole, hzero, hf, he⟩ := h
  rename_i negative whole fraction exponent f e
  have hexponent := scanExponent_of_spelled he hrest
  have hhead := head?_of_spelled he hrest
  have hdigits : digits (whole ++ (f ++ (e ++ rest))) = (whole, f ++ (e ++ rest)) := by
    refine digits_append hwhole.2 ?_
    cases hf with
    | none => exact fun c hc => (hhead c hc).1
    | digits =>
      intro c hc
      cases Option.some.inj hc
      decide
  obtain ⟨d, ds, rfl, hd⟩ := hwhole.exists_cons
  obtain ⟨hminus, -⟩ := ne_sign_of_isDigit hd
  have hidle : ¬ (d = '0' ∧ ds ≠ []) := by simpa using hzero
  rw [List.cons_append] at hdigits
  cases hf with
  | none =>
    have hpoint (r : List Char) : e ++ rest ≠ '.' :: r := fun h =>
      (hhead '.' (by rw [h]; rfl)).2 rfl
    rw [List.nil_append] at hdigits
    cases negative <;> simp [scan, hminus, hdigits, hidle, hexponent]
  | @digits fs hfs =>
    have hfraction : digits (fs ++ (e ++ rest)) = (fs, e ++ rest) :=
      digits_append hfs.2 fun c hc => (hhead c hc).1
    rw [List.cons_append] at hdigits
    cases negative <;> simp [scan, hminus, hdigits, hidle, hfraction, hfs.1, hexponent]

end Complete

section Value

theorem fst_gather_lt {ds : List Char} {n : Nat} (h : n < 0x10000000000000000) :
    (gather n ds).1 < 0x10000000000000000 := by
  induction ds generalizing n with
  | nil => exact h
  | cons d ds ih =>
    rw [gather]
    split
    · rename_i hd
      exact ih hd
    · exact h

theorem real_ne_int {negative : Bool} {n : Nat} {e : Int} {i : Int} :
    real negative n e ≠ some (.int i) := by
  intro h
  obtain ⟨_, -, hi⟩ := Option.map_eq_some_iff.mp h
  cases hi

/-- Only integers of 64 bits are read as such. -/
theorem inRange_of_value {l : Numeral} {i : Int} (h : l.value = some (.int i)) :
    Number.InRange i := by
  have hlt : (gather 0 l.whole).1 < 0x10000000000000000 := fst_gather_lt (by decide)
  unfold value at h
  split at h
  rename_i n extra hgather
  rw [hgather] at hlt
  split at h
  rename_i n' places hfraction
  split at h
  · rename_i hnone _
    -- without a fraction the digits are those of the integer part
    rw [hnone] at hfraction
    cases hfraction
    split at h
    · exact absurd h real_ne_int
    · split at h
      · cases h
        exact ⟨by omega, by omega⟩
      · split at h
        · cases h
        · split at h
          · cases h
            exact ⟨by omega, by omega⟩
          · exact absurd h real_ne_int
  · exact absurd h real_ne_int
  · split at h
    · exact absurd h real_ne_int
    · split at h <;> cases h

end Value

end Numeral

end DeclRules.Json

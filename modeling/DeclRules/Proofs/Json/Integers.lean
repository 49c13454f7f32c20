import DeclRules.Json.Printer
import DeclRules.Proofs.Json.Numerals

/-! # Integers read back

The literal of an integer is a minus sign, if it is negative, and the digits of its magnitude. The
printed integer spells that literal (`Numeral.spelled_text`), and the literal has the integer as
its value if that fits 64 bits (`Numeral.value_ofInt`). -/

namespace DeclRules.Json.Numeral

/-- The literal that an integer is printed as. -/
def ofInt (i : Int) : Numeral where
  negative := decide (i < 0)
  whole := Nat.toDigits 10 i.natAbs
  fraction := none
  exponent := none

theorem toList_text (i : Int) : (Number.int i).text.toList =
    (if i < 0 then ['-'] else []) ++ Nat.toDigits 10 i.natAbs := by
  cases i with
  | ofNat n =>
    change n.repr.toList = _
    rw [Nat.repr_eq_ofList_toDigits, String.toList_ofList, if_neg (by simp)]
    rfl
  | negSucc n =>
    change ("-" ++ n.succ.repr).toList = _
    rw [String.toList_append, Nat.repr_eq_ofList_toDigits, String.toList_ofList,
      String.toList_ofList, if_pos (Int.negSucc_lt_zero n), Int.natAbs_negSucc]

/-- Only the digits of zero start with a zero. -/
theorem eq_zero_of_head?_toDigits {n : Nat} (h : (Nat.toDigits 10 n).head? = some '0') :
    n = 0 := by
  have hdigit : ∀ m < 10, m.digitChar = '0' → m = 0 := by decide
  induction n using Nat.strongRecOn with
  | ind n ih =>
    by_cases hn : n < 10
    · rw [Nat.toDigits_of_lt_base hn, List.head?_cons, Option.some.injEq] at h
      exact hdigit n hn h
    · rw [Nat.toDigits_of_base_le (by decide) (Nat.le_of_not_lt hn),
        List.head?_append_of_ne_nil _ Nat.toDigits_ne_nil] at h
      have hzero := ih (n / 10) (Nat.div_lt_self (by omega) (by decide)) h
      omega

theorem spelled_text (i : Int) : (ofInt i).Spelled (Number.int i).text.toList := by
  have hdigits : IsDigits (Nat.toDigits 10 i.natAbs) :=
    ⟨Nat.toDigits_ne_nil, fun c hc => Nat.isDigit_of_mem_toDigits (by decide) le_rfl hc⟩
  have hzero (h : (Nat.toDigits 10 i.natAbs).head? = some '0') :
      (Nat.toDigits 10 i.natAbs).length = 1 := by
    rw [eq_zero_of_head?_toDigits h]
    rfl
  have hspelled : (ofInt i).Spelled _ := .mk hdigits hzero .none .none
  simpa [toList_text] using hspelled

theorem gather_of_lt {ds : List Char} {n : Nat}
    (h : Nat.ofDigitChars 10 ds n < 0x10000000000000000) :
    gather n ds = (Nat.ofDigitChars 10 ds n, 0) := by
  induction ds generalizing n with
  | nil => rfl
  | cons d ds ih =>
    rw [Nat.ofDigitChars_cons] at h ⊢
    have hle : 10 * n + digit d ≤ Nat.ofDigitChars 10 ds (10 * n + digit d) := by
      rw [Nat.ofDigitChars_eq_ofDigitChars_zero]
      exact Nat.le_add_right_of_le (Nat.le_mul_of_pos_left _ (by positivity))
    rw [gather, if_pos (hle.trans_lt h)]
    exact ih h

theorem value_ofInt {i : Int} (h : Number.InRange i) : (ofInt i).value = some (.int i) := by
  have hgather : gather 0 (Nat.toDigits 10 i.natAbs) = (i.natAbs, 0) := by
    have hdigits := Nat.ofDigitChars_ten_toDigits (n := i.natAbs)
    rw [gather_of_lt] <;> rw [hdigits]
    unfold Number.InRange at h
    omega
  unfold Number.InRange at h
  by_cases hi : i < 0
  · have hne : i.natAbs ≠ 0 := by omega
    have hle : i.natAbs ≤ 0x8000000000000000 := by omega
    have hneg : -|i| = i := by rw [abs_of_neg hi, neg_neg]
    simp [value, ofInt, hgather, gatherFraction, hi, hne, hle, hneg]
  · have hpos : (i.natAbs : Int) = i := by omega
    simp [value, ofInt, hgather, gatherFraction, hi, hpos]

end DeclRules.Json.Numeral

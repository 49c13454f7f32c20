import DeclRules.Json.Printer
import DeclRules.Proofs.Text.Lines

/-! # Printed text stays on its line

No control character is left in the text of a value: strings have them escaped, and the rest of the
text is brackets, digits and the like (`Value.plain_print`). -/

namespace DeclRules

theorem plain_toDigits (n : Nat) : Plain (Nat.toDigits 10 n) := by
  intro c hc
  have hdigit : c.isDigit = true := Nat.isDigit_of_mem_toDigits (by decide) le_rfl hc
  rw [Char.isDigit_iff_toNat] at hdigit
  exact le_trans (by decide) hdigit.1

theorem plain_toString_nat (n : Nat) : Plain (toString n).toList := by
  change Plain n.repr.toList
  rw [Nat.repr_eq_ofList_toDigits, String.toList_ofList]
  exact plain_toDigits n

theorem plain_toString_int (i : Int) : Plain (toString i).toList := by
  cases i with
  | ofNat n => exact plain_toString_nat n
  | negSucc n =>
    change Plain ("-" ++ toString n.succ).toList
    rw [String.toList_append]
    exact plain_append.mpr ⟨by simp [Plain], plain_toString_nat n.succ⟩

namespace Decimal.Binary64

variable {digits : String}

theorem plain_positional (h : Plain digits.toList) (point : Int) :
    Plain (positional digits point).toList := by
  have hzeros (n : Nat) : Plain (zeros n).toList := by
    intro c hc
    rw [zeros, String.toList_ofList] at hc
    rw [List.eq_of_mem_replicate hc]
    decide
  unfold positional
  split
  · simp [hzeros, h]
  · dsimp only
    split
    · simp [hzeros, h]
    · simp [h.take, h.drop]

theorem plain_scientific (h : Plain digits.toList) (exponent : Int) :
    Plain (scientific digits exponent).toList := by
  have htail : Plain digits.toList.tail := List.drop_one ▸ h.drop 1
  unfold scientific
  split <;> split <;> simp [h.take, htail, plain_toDigits]

theorem plain_text (isPlain : Int → Bool) (x : Binary64) : Plain (x.text isPlain).toList := by
  have hsign : Plain (if x.negative then "-" else "").toList := by
    split <;> simp
  rw [text, String.toList_append, plain_append]
  refine ⟨hsign, ?_⟩
  split
  · simp
  · have hdigits := plain_toString_nat (shortest x.magnitude).digits
    dsimp only
    split
    · exact plain_positional hdigits _
    · exact plain_scientific hdigits _

end Decimal.Binary64

namespace Json

theorem Number.plain_text (n : Number) : Plain n.text.toList := by
  cases n with
  | int n => exact plain_toString_int n
  | real x =>
    rw [Number.text]
    exact x.plain_text _

theorem plain_escape (c : Char) : Plain (escape c) := by
  have hhex : ∀ n < 16, 0x20 ≤ (hexDigit n).toNat := by decide
  unfold escape
  split
  case h_8 =>
    split
    · simp [hhex _ (Nat.mod_lt c.toNat (by decide)), hhex (c.toNat / 16) (by omega)]
    · rename_i hprinted
      simpa using hprinted
  all_goals simp

theorem plain_printString (s : String) : Plain (printString s) := by
  have hescape : Plain (s.toList.flatMap escape) := by
    intro c hc
    obtain ⟨c', -, hc⟩ := List.mem_flatMap.mp hc
    exact plain_escape c' c hc
  simp [printString, hescape]

theorem plain_commas {l : List (List Char)} (h : ∀ s ∈ l, Plain s) : Plain (commas l) := by
  fun_induction commas l with
  | case1 => exact plain_nil
  | case2 s => exact h s List.mem_cons_self
  | case3 s t l ih =>
    obtain ⟨hs, hl⟩ := List.forall_mem_cons.mp h
    simp [hs, ih hl]

namespace Value

mutual

theorem plain_print : (v : Value) → Plain v.print
  | null => by simp [print]
  | bool true => by simp [print]
  | bool false => by simp [print]
  | number n => n.plain_text
  | string s => plain_printString s
  | array items => by simp [print, plain_commas (plain_printItems items)]
  | object members => by simp [print, plain_commas (plain_printMembers members)]

theorem plain_printItems : (l : List Value) → ∀ s ∈ printItems l, Plain s
  | [] => by simp [printItems]
  | v :: l => List.forall_mem_cons.mpr ⟨plain_print v, plain_printItems l⟩

theorem plain_printMembers : (l : List (String × Value)) → ∀ s ∈ printMembers l, Plain s
  | [] => by simp [printMembers]
  | (k, v) :: l => List.forall_mem_cons.mpr
    ⟨by simp [plain_printString, plain_print v], plain_printMembers l⟩

end

theorem plain_text (v : Value) : Plain v.text.toList := by
  rw [text, String.toList_ofList]
  exact v.plain_print

end Value

end Json

end DeclRules

import DeclRules.Proofs.Rule.Compile
import DeclRules.RuleFile.Basic

/-! # The pattern of a field that a rule leaves out

`FieldPattern.wildcard` is what that pattern compiles to. Its machine never has more than one
thread, which goes round once for each character other than a line feed (`FieldPattern.run_loop`),
so the pattern covers exactly the texts without a line feed (`FieldPattern.covers_wildcard_iff`). -/

namespace DeclRules.FieldPattern

open Pattern Unicode

/-- What a dot stands for. -/
def anyButNewline : CharSet := ⟨[(0, 0x9), (0xB, 0xD7FF), (0xE000, 0x10FFFF)]⟩

theorem contains_anyButNewline (c : Char) : anyButNewline.contains c = true ↔ c ≠ '\n' := by
  have hcode : c = '\n' ↔ c.toNat = 0xA :=
    ⟨fun h => h ▸ rfl, fun h => Char.ext (UInt32.toNat_inj.mp h)⟩
  have hvalid : c.toNat < 0xD800 ∨ 0xDFFF < c.toNat ∧ c.toNat < 0x110000 := c.valid
  simp only [CharSet.contains, CharSet.containsCode, anyButNewline, CharSet.containsCode.go, ne_eq,
    hcode]
  generalize c.toNat = n at hvalid
  grind

/-- The start, any number of characters that are no line feed, the end. -/
def wildcard : FieldPattern where
  source := RuleFile.wildcard
  expr := .seq (.look .textStart)
    (.seq (.repeat 0 none true (.chars anyButNewline)) (.look .textEnd))
  program := #[.look .textStart 1, .fork 2 3, .take anyButNewline 1, .look .textEnd 4, .accept]

set_option maxRecDepth 20000 in
theorem compile_wildcard : compile RuleFile.wildcard = .ok wildcard := by cbv

/-- The thread that waits at the loop stays alive to the end of a text without a line feed. -/
theorem run_loop (text : List Char) (index : Nat) (before : Option Char) (t : Trace) :
    (Machine.run wildcard.program index before [⟨1, t⟩] text).isSome = true ↔ '\n' ∉ text := by
  induction text generalizing index before with
  | nil =>
    have hclose : (Machine.closeAll wildcard.program ⟨index, before, none⟩ [⟨1, t⟩]).accepted =
        some t := by cbv
    simp [Machine.run, hclose]
  | cons c text ih =>
    have hclose : (Machine.closeAll wildcard.program ⟨index, before, some c⟩ [⟨1, t⟩]).waiting =
        [⟨2, t⟩] := by cbv
    rw [Machine.run, hclose, List.mem_cons, not_or, ← ne_eq, ne_comm, ← contains_anyButNewline]
    by_cases hc : anyButNewline.contains c = true
    · simpa [Machine.advance, wildcard, hc] using ih (index + 1) (some c)
    · simp [Machine.advance, wildcard, hc]

/-- At the start of a text the first instruction only leads on to the loop. -/
theorem run_start (text : List Char) (t : Trace) :
    Machine.run wildcard.program 0 none [⟨0, t⟩] text =
      Machine.run wildcard.program 0 none [⟨1, t⟩] text := by
  cases text with
  | nil =>
    have h₀ : (Machine.closeAll wildcard.program ⟨0, none, none⟩ [⟨0, t⟩]).accepted = some t := by
      cbv
    have h₁ : (Machine.closeAll wildcard.program ⟨0, none, none⟩ [⟨1, t⟩]).accepted = some t := by
      cbv
    rw [Machine.run, Machine.run, h₀, h₁]
  | cons c text =>
    have h₀ : (Machine.closeAll wildcard.program ⟨0, none, some c⟩ [⟨0, t⟩]).waiting =
        [⟨2, t⟩] := by cbv
    have h₁ : (Machine.closeAll wildcard.program ⟨0, none, some c⟩ [⟨1, t⟩]).waiting =
        [⟨2, t⟩] := by cbv
    rw [Machine.run, Machine.run, h₀, h₁]

/-- The pattern covers a text if and only if there is no line feed in it. -/
theorem covers_wildcard_iff (text : String) :
    Covers RuleFile.wildcard text ↔ '\n' ∉ text.toList := by
  rw [covers_iff compile_wildcard, isMatch, trace?, run_start, run_loop]

end DeclRules.FieldPattern

import DeclRules.Proofs.Text.Lines

/-! # The first place of a part

`FirstAt part s before after`: `part` stands in `s` between `before` and `after`, and nowhere
earlier. A part of ASCII characters stands first in a text where its bytes stand first in the
bytes of the text (`Bytes.offset?_ofChars`): no byte of another character is one of its bytes. -/

namespace DeclRules

section FirstAt
variable {α : Type} {part s before after : List α}

structure FirstAt (part s before after : List α) : Prop where
  eq : s = before ++ part ++ after
  first : ∀ b a, s = b ++ part ++ a → before.length ≤ b.length

theorem firstAt_nil_iff : FirstAt part s [] after ↔ s = part ++ after :=
  ⟨fun h => h.eq, fun h => ⟨h, fun _ _ _ => Nat.zero_le _⟩⟩

theorem firstAt_cons_iff {c : α} :
    FirstAt part (c :: s) (c :: before) after ↔
      ¬ part <+: c :: s ∧ FirstAt part s before after := by
  constructor
  · intro h
    refine ⟨?_, List.cons.inj h.eq |>.2, fun b a heq => ?_⟩
    · rintro ⟨a, ha⟩
      exact Nat.not_succ_le_zero _ (h.first [] a ha.symm)
    · exact Nat.le_of_succ_le_succ (h.first (c :: b) a (by rw [heq]; rfl))
  · rintro ⟨hfirst, h⟩
    refine ⟨by rw [h.eq]; rfl, fun b a heq => ?_⟩
    cases b with
    | nil => exact absurd ⟨a, heq.symm⟩ hfirst
    | cons d b =>
      obtain ⟨-, heq⟩ := List.cons.inj heq
      exact Nat.succ_le_succ (h.first b a heq)

theorem exists_firstAt (h : part <:+: s) : ∃ before after, FirstAt part s before after := by
  induction s with
  | nil =>
    obtain rfl := List.infix_nil.mp h
    exact ⟨[], [], firstAt_nil_iff.mpr rfl⟩
  | cons c s ih =>
    by_cases hpre : part <+: c :: s
    · obtain ⟨after, hafter⟩ := hpre
      exact ⟨[], after, firstAt_nil_iff.mpr hafter.symm⟩
    · obtain ⟨before, after, hs⟩ := ih ((List.infix_cons_iff.mp h).resolve_left hpre)
      exact ⟨c :: before, after, firstAt_cons_iff.mpr ⟨hpre, hs⟩⟩

end FirstAt

namespace Bytes

/-- Where a part starts first. -/
def offset? (part : Bytes) : Bytes → Option Nat
  | [] => none
  | b :: bs => if part.isPrefixOf (b :: bs) then some 0 else (offset? part bs).map (· + 1)

theorem offset?_lt {part b : Bytes} {i : Nat} (h : offset? part b = some i) : i < b.length := by
  induction b generalizing i with
  | nil => simp [offset?] at h
  | cons b bs ih =>
    rw [offset?] at h
    split at h
    · obtain rfl := Option.some.inj h
      simp
    · obtain ⟨j, hj, rfl⟩ := Option.map_eq_some_iff.mp h
      exact Nat.succ_lt_succ (ih hj)

theorem offset?_eq_zero {part b : Bytes} (hpart : part ≠ []) (h : part <+: b) :
    offset? part b = some 0 := by
  cases b with
  | nil => exact absurd (List.prefix_nil.mp h) hpart
  | cons c b => rw [offset?, if_pos (List.isPrefixOf_iff_prefix.mpr h)]

theorem offset?_append {part l r : Bytes}
    (h : ∀ b bs, b :: bs <:+ l → ¬ part <+: b :: bs ++ r) :
    offset? part (l ++ r) = (offset? part r).map (· + l.length) := by
  induction l with
  | nil => simp
  | cons b l ih =>
    have hb : ¬ part.isPrefixOf (b :: (l ++ r)) = true :=
      mt List.isPrefixOf_iff_prefix.mp (h b l List.suffix_rfl)
    rw [List.cons_append, offset?, if_neg hb,
      ih fun c cs hc => h c cs (hc.trans (List.suffix_cons b l)), Option.map_map]
    rfl

theorem ofText_of_text? {b : Bytes} {s : String} (h : b.text? = some s) : ofText s = b := by
  rw [text?, String.fromUTF8?] at h
  split at h
  · obtain rfl := Option.some.inj h
    rfl
  · cases h

/-- The UTF-8 encoding of characters. -/
def ofChars (s : List Char) : Bytes := s.flatMap String.utf8EncodeChar

theorem ofText_eq_ofChars (s : String) : ofText s = ofChars s.toList := ofText_eq_flatMap s

@[simp] theorem ofText_ofList (s : List Char) : ofText (String.ofList s) = ofChars s := by
  rw [ofText_eq_ofChars, String.toList_ofList]

@[simp] theorem text?_ofChars (s : List Char) : (ofChars s).text? = some (String.ofList s) := by
  rw [← ofText_ofList, text?_ofText]

@[simp] theorem ofChars_append (s t : List Char) : ofChars (s ++ t) = ofChars s ++ ofChars t :=
  List.flatMap_append

@[simp] theorem ofChars_cons (c : Char) (s : List Char) :
    ofChars (c :: s) = String.utf8EncodeChar c ++ ofChars s := List.flatMap_cons

theorem ofChars_ne_nil {s : List Char} (h : s ≠ []) : ofChars s ≠ [] := by
  obtain ⟨c, s, rfl⟩ := List.exists_cons_of_ne_nil h
  simp [String.utf8EncodeChar_ne_nil]

section Ascii

theorem utf8EncodeChar_of_lt {c : Char} (h : c.toNat < 0x80) :
    String.utf8EncodeChar c = [UInt8.ofNat c.toNat] := by
  have hval : c.val.toNat = c.toNat := rfl
  rw [String.utf8EncodeChar, hval, if_pos (by omega)]

theorem le_of_mem_utf8EncodeChar {c : Char} {b : UInt8} (h : 0x80 ≤ c.toNat)
    (hb : b ∈ String.utf8EncodeChar c) : 0x80 ≤ b.toNat := by
  rcases eq_or_le_of_mem_utf8EncodeChar hb with hb | hb <;> omega

theorem ofNat_eq_ofNat_iff {c d : Char} (hc : c.toNat < 0x80) (hd : d.toNat < 0x80) :
    UInt8.ofNat c.toNat = UInt8.ofNat d.toNat ↔ c = d := by
  rw [← UInt8.toNat_inj, UInt8.toNat_ofNat', UInt8.toNat_ofNat', Nat.mod_eq_of_lt (by omega),
    Nat.mod_eq_of_lt (by omega)]
  exact Char.toNat_inj

/-- A first character of ASCII begins no text that starts with a byte beyond ASCII. -/
theorem not_prefix_of_le {a : Char} {part : List Char} (ha : a.toNat < 0x80) {b : UInt8}
    (hb : 0x80 ≤ b.toNat) (bs : Bytes) : ¬ ofChars (a :: part) <+: b :: bs := by
  rw [ofChars_cons, utf8EncodeChar_of_lt ha, List.singleton_append, List.cons_prefix_cons]
  rintro ⟨heq, -⟩
  have := congrArg UInt8.toNat heq
  rw [UInt8.toNat_ofNat'] at this
  omega

theorem ofChars_prefix_iff {part s : List Char} (ha : ∀ a ∈ part, a.toNat < 0x80) :
    ofChars part <+: ofChars s ↔ part <+: s := by
  induction part generalizing s with
  | nil => simp [ofChars]
  | cons a part ih =>
    obtain ⟨ha, hpart⟩ := List.forall_mem_cons.mp ha
    cases s with
    | nil =>
      rw [ofChars_cons, utf8EncodeChar_of_lt ha]
      simp [ofChars]
    | cons c s =>
      rw [List.cons_prefix_cons, ofChars_cons c]
      by_cases hc : c.toNat < 0x80
      · rw [ofChars_cons, utf8EncodeChar_of_lt ha, utf8EncodeChar_of_lt hc, List.singleton_append,
          List.singleton_append, List.cons_prefix_cons, ofNat_eq_ofNat_iff ha hc, ih hpart]
      · have hne : a ≠ c := fun heq => hc (heq ▸ ha)
        refine iff_of_false ?_ fun h => hne h.1
        obtain ⟨b, bs, hbs⟩ := List.exists_cons_of_ne_nil (String.utf8EncodeChar_ne_nil (c := c))
        rw [hbs, List.cons_append]
        exact not_prefix_of_le ha
          (le_of_mem_utf8EncodeChar (not_lt.mp hc) (hbs ▸ List.mem_cons_self)) _

/-- At least one character, and all of them of ASCII. -/
structure AsciiPart (part : List Char) : Prop where
  ne_nil : part ≠ []
  lt : ∀ a ∈ part, a.toNat < 0x80

variable {part s before after : List Char}

/-- A character that does not begin the part is passed over with all its bytes. -/
theorem offset?_ofChars_cons {c : Char} (hpart : AsciiPart part) (h : ¬ part <+: c :: s) :
    offset? (ofChars part) (ofChars (c :: s)) =
      (offset? (ofChars part) (ofChars s)).map (· + (String.utf8EncodeChar c).length) := by
  obtain ⟨a, part, rfl⟩ := List.exists_cons_of_ne_nil hpart.ne_nil
  rw [ofChars_cons c]
  refine offset?_append fun b bs hsuffix => ?_
  by_cases hc : c.toNat < 0x80
  · rw [utf8EncodeChar_of_lt hc] at hsuffix
    obtain ⟨rfl, rfl⟩ : b = UInt8.ofNat c.toNat ∧ bs = [] := by
      simpa [List.suffix_cons_iff] using hsuffix
    have := mt (ofChars_prefix_iff hpart.lt).mp h
    rwa [ofChars_cons c, utf8EncodeChar_of_lt hc] at this
  · exact not_prefix_of_le (hpart.lt a List.mem_cons_self)
      (le_of_mem_utf8EncodeChar (not_lt.mp hc) (hsuffix.subset List.mem_cons_self)) _

theorem offset?_ofChars_eq_none (hpart : AsciiPart part) (h : ¬ part <:+: s) :
    offset? (ofChars part) (ofChars s) = none := by
  induction s with
  | nil => rfl
  | cons c s ih =>
    obtain ⟨hc, hs⟩ := not_or.mp (mt List.infix_cons_iff.mpr h)
    rw [offset?_ofChars_cons hpart hc, ih hs, Option.map_none]

/-- The first place in bytes is the first place in characters. -/
theorem offset?_ofChars (hpart : AsciiPart part) (h : FirstAt part s before after) :
    offset? (ofChars part) (ofChars s) = some (ofChars before).length := by
  induction before generalizing s with
  | nil =>
    have hpre : ofChars part <+: ofChars s :=
      (ofChars_prefix_iff hpart.lt).mpr ⟨after, (firstAt_nil_iff.mp h).symm⟩
    exact offset?_eq_zero (ofChars_ne_nil hpart.ne_nil) hpre
  | cons c before ih =>
    obtain ⟨s, rfl⟩ : ∃ t, s = c :: t := ⟨_, h.eq⟩
    obtain ⟨hc, hs⟩ := firstAt_cons_iff.mp h
    rw [offset?_ofChars_cons hpart hc, ih hs, ofChars_cons, List.length_append, Option.map_some,
      Nat.add_comm]

end Ascii

end Bytes

end DeclRules

import DeclRules.Files.View
import Mathlib

/-! # Text as lines of bytes

`Bytes.ofText` is a text in UTF-8, which `Bytes.text?` takes back. Lines that hold neither of the
bytes that end lines are found again when each of them has been ended with a line feed
(`Bytes.lines_unlines`); the bytes of a text without control characters are such a line. -/

namespace DeclRules

/-- Text without control characters. -/
def Plain (s : List Char) : Prop := ∀ c ∈ s, 0x20 ≤ c.toNat

@[simp] theorem plain_nil : Plain [] := by simp [Plain]

@[simp] theorem plain_cons {c : Char} {s : List Char} :
    Plain (c :: s) ↔ 0x20 ≤ c.toNat ∧ Plain s := List.forall_mem_cons

@[simp] theorem plain_append {s t : List Char} : Plain (s ++ t) ↔ Plain s ∧ Plain t :=
  List.forall_mem_append

theorem Plain.take {s : List Char} (h : Plain s) (n : Nat) : Plain (s.take n) :=
  fun c hc => h c (List.mem_of_mem_take hc)

theorem Plain.drop {s : List Char} (h : Plain s) (n : Nat) : Plain (s.drop n) :=
  fun c hc => h c (List.mem_of_mem_drop hc)

namespace Bytes

/-- The UTF-8 encoding of a text. -/
def ofText (s : String) : Bytes := s.toByteArray.data.toList

theorem text?_ofText (s : String) : (ofText s).text? = some s := by
  have hbytes : (⟨(ofText s).toArray⟩ : ByteArray) = s.toByteArray := rfl
  rw [text?, hbytes, String.fromUTF8?, dif_pos s.isValidUTF8]
  rfl

theorem ofText_append (s t : String) : ofText (s ++ t) = ofText s ++ ofText t := by
  simp [ofText]

theorem ofText_eq_flatMap (s : String) : ofText s = s.toList.flatMap String.utf8EncodeChar := by
  rw [ofText, ← String.utf8Encode_toList, List.utf8Encode, List.data_toByteArray]

/-- Every byte of an encoded character is the character itself or beyond ASCII. -/
theorem eq_or_le_of_mem_utf8EncodeChar {c : Char} {b : UInt8} (h : b ∈ String.utf8EncodeChar c) :
    b.toNat = c.toNat ∨ 0x80 ≤ b.toNat := by
  have hval : c.val.toNat = c.toNat := rfl
  simp only [String.utf8EncodeChar, hval] at h
  split at h
  · left
    rw [List.mem_singleton.mp h, UInt8.toNat_ofNat']
    omega
  · right
    split_ifs at h <;> simp only [List.mem_cons, List.not_mem_nil, or_false] at h
    · rcases h with rfl | rfl <;> rw [UInt8.toNat_ofNat'] <;> omega
    · rcases h with rfl | rfl | rfl <;> rw [UInt8.toNat_ofNat'] <;> omega
    · rcases h with rfl | rfl | rfl | rfl <;> rw [UInt8.toNat_ofNat'] <;> omega

theorem le_of_mem_ofText {s : String} (h : Plain s.toList) {b : UInt8} (hb : b ∈ ofText s) :
    0x20 ≤ b.toNat := by
  rw [ofText_eq_flatMap] at hb
  obtain ⟨c, hc, hb⟩ := List.mem_flatMap.mp hb
  rcases eq_or_le_of_mem_utf8EncodeChar hb with hb | hb
  · rw [hb]
    exact h c hc
  · omega

section Lines

theorem gatherLines_append {l : Bytes} (h : 0x0A ∉ l) (line : Bytes) (done : List Bytes)
    (rest : Bytes) : gatherLines line done (l ++ 0x0A :: rest) =
      gatherLines [] (endLine (l.reverse ++ line) :: done) rest := by
  induction l generalizing line with
  | nil => simp [gatherLines]
  | cons b l ih =>
    obtain ⟨hb, hl⟩ := not_or.mp (mt List.mem_cons.mpr h)
    rw [List.cons_append, gatherLines, if_neg (Ne.symm hb), ih hl]
    simp

/-- The lines that are done come first. -/
theorem gatherLines_eq_append (line : Bytes) (done : List Bytes) (b : Bytes) :
    gatherLines line done b = done.reverse ++ gatherLines line [] b := by
  induction b generalizing line done with
  | nil => cases line <;> simp [gatherLines]
  | cons c b ih =>
    rw [gatherLines, gatherLines]
    split
    · rw [ih, ih [] [endLine line]]
      simp
    · exact ih _ _

/-- A line less the carriage return at its end, if there is one. -/
def dropReturn (l : Bytes) : Bytes := if l.getLast? = some 0x0D then l.dropLast else l

theorem dropReturn_concat (l : Bytes) : dropReturn (l ++ [0x0D]) = l := by simp [dropReturn]

theorem dropReturn_of_notMem {l : Bytes} (h : 0x0D ∉ l) : dropReturn l = l :=
  if_neg fun hlast => h (List.mem_of_getLast? hlast)

theorem endLine_reverse (l : Bytes) : endLine l.reverse = dropReturn l := by
  by_cases h : l.getLast? = some 0x0D
  · obtain ⟨l, rfl⟩ := List.getLast?_eq_some_iff.mp h
    rw [dropReturn_concat, List.reverse_concat, endLine, List.reverse_reverse]
  · rw [dropReturn, if_neg h, endLine.eq_def]
    split
    · rename_i l' heq
      rw [← List.head?_reverse, heq] at h
      exact absurd rfl h
    · exact List.reverse_reverse l

/-- The first line ends at the first line feed. -/
theorem lines_append_cons {l : Bytes} (h : 0x0A ∉ l) (rest : Bytes) :
    lines (l ++ 0x0A :: rest) = dropReturn l :: lines rest := by
  rw [lines, gatherLines_append h, List.append_nil, gatherLines_eq_append, endLine_reverse]
  rfl

/-- The bytes of lines, each of them ended with a line feed. -/
def unlines (ls : List Bytes) : Bytes := ls.flatMap (· ++ [0x0A])

theorem lines_unlines {ls : List Bytes} (h : ∀ l ∈ ls, 0x0A ∉ l ∧ 0x0D ∉ l) :
    lines (unlines ls) = ls := by
  induction ls with
  | nil => rfl
  | cons l ls ih =>
    obtain ⟨⟨hl, hend⟩, hls⟩ := List.forall_mem_cons.mp h
    have hunlines : unlines (l :: ls) = l ++ 0x0A :: unlines ls := by simp [unlines]
    rw [hunlines, lines_append_cons hl, dropReturn_of_notMem hend, ih hls]

theorem notMem_ofText {s : String} (h : Plain s.toList) : 0x0A ∉ ofText s ∧ 0x0D ∉ ofText s := by
  constructor <;> exact fun hmem => absurd (le_of_mem_ofText h hmem) (by decide)

/-- Lines without control characters are found again in their bytes. -/
theorem lines_ofText {ls : List String} (h : ∀ l ∈ ls, Plain l.toList) :
    lines (unlines (ls.map ofText)) = ls.map ofText :=
  lines_unlines fun l hl => by
    obtain ⟨s, hs, rfl⟩ := List.mem_map.mp hl
    exact notMem_ofText (h s hs)

theorem ofText_join (ls : List String) :
    ofText (String.join (ls.map (· ++ "\n"))) = unlines (ls.map ofText) := by
  induction ls with
  | nil => rfl
  | cons l ls ih =>
    rw [List.map_cons, String.join_cons, ofText_append, ofText_append, ih]
    rfl

end Lines

end Bytes

end DeclRules

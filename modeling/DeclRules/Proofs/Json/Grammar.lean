import DeclRules.Proofs.Json.Reading

/-! # The grammar of JSON text

`Document.Written` says which texts are written for which documents, blanks included. The reader
takes exactly such texts, with blanks on both sides, as a whole (`Document.read_eq_iff`); in
particular a text is written for no more than one document. -/

namespace DeclRules.Json.Document

/-- The text of a document, with blanks before and after it. -/
structure Padded where
  before : List Char
  text : List Char
  after : List Char
  document : Document
  blank_before : Blank before
  blank_after : Blank after

def Padded.spelling (p : Padded) : List Char := p.before ++ (p.text ++ p.after)

/-- The text of a member of an object. -/
def memberSpelling (m : Padded × Padded) : List Char := m.1.spelling ++ ':' :: m.2.spelling

/-- The text is written for the document, by the grammar of JSON. -/
inductive Written : List Char → Document → Prop
  | null : Written "null".toList .null
  | bool (b : Bool) : Written (Value.bool b).print (.bool b)
  | number {l : Numeral} {s : List Char} (h : l.Spelled s) : Written s (.number l.value)
  /-- A string literal is without a value if its pieces do not join. -/
  | string {s : List Char} {l : List Piece} {o : Option String} (h : Spells s l)
    (ho : ∀ t, o = some t ↔ Joins l t.toList) : Written ('"' :: (s ++ ['"'])) (.string o)
  | arrayBlank {w : List Char} (hw : Blank w) : Written ('[' :: (w ++ [']'])) (.array [] true)
  | array {items : List Padded} (hne : items ≠ []) (h : ∀ p ∈ items, Written p.text p.document) :
    Written ('[' :: (commas (items.map (·.spelling)) ++ [']']))
      (.array (items.map (·.document)) true)
  | objectBlank {w : List Char} (hw : Blank w) : Written ('{' :: (w ++ ['}'])) (.object [] true)
  | object {members : List (Padded × Padded)} (hne : members ≠ [])
    (hstring : ∀ m ∈ members, ∃ o, m.1.document = .string o)
    (hkey : ∀ m ∈ members, Written m.1.text m.1.document)
    (hvalue : ∀ m ∈ members, Written m.2.text m.2.document) :
    Written ('{' :: (commas (members.map memberSpelling) ++ ['}']))
      (.object (members.map fun m => (m.1.document, m.2.document)) true)

section Complete

theorem Padded.reads {p : Padded} (h : Reads p.text p.document) :
    ReadsPadded p.spelling p.document :=
  ⟨p.before, p.text, p.after, rfl, p.blank_before, p.blank_after, h⟩

theorem map_joinPieces_eq_some_iff {l : List Piece} {t : String} :
    (joinPieces none l).map String.ofList = some t ↔ Joins l t.toList := by
  rw [Option.map_eq_some_iff, ← joinPieces_eq_some_iff]
  constructor
  · rintro ⟨s, hs, rfl⟩
    rwa [String.toList_ofList]
  · intro h
    exact ⟨t.toList, h, String.ofList_toList⟩

theorem reads_of_written {s : List Char} {d : Document} (h : Written s d) : Reads s d := by
  induction h with
  | null => exact reads_null
  | bool b => exact reads_bool b
  | number h => exact reads_numeral h
  | @string s l o h ho =>
    have hvalue : (joinPieces none l).map String.ofList = o :=
      Option.ext fun t => map_joinPieces_eq_some_iff.trans (ho t).symm
    exact hvalue ▸ reads_pieces h
  | arrayBlank hw => exact reads_array_blank hw
  | array hne _ ih =>
    refine reads_array_padded ?_ (by simpa using hne)
    rw [List.forall₂_map_left_iff, List.forall₂_map_right_iff, List.forall₂_same]
    exact fun p hp => Padded.reads (ih p hp)
  | objectBlank hw => exact reads_object_blank hw
  | object hne hstring _ _ ihkey ihvalue =>
    refine reads_object_padded ?_ (by simpa using hne)
    rw [List.forall₂_map_left_iff, List.forall₂_map_right_iff, List.forall₂_same]
    intro m hm
    obtain ⟨o, ho⟩ := hstring m hm
    exact ⟨_, _, o, rfl, ho, Padded.reads (ihkey m hm), Padded.reads (ihvalue m hm)⟩

end Complete

section Sound

theorem exists_blank (s : List Char) : ∃ w, Blank w ∧ s = w ++ skipSpace s :=
  ⟨s.takeWhile isSpace, fun _ hc => List.mem_takeWhile_imp hc, List.takeWhile_append_dropWhile.symm⟩

/-- A value that is read to its end. -/
def ValueSound (fuel : Nat) : Prop := ∀ s d r, readValue fuel s = (d, some r) →
  ∃ w t, s = w ++ (t ++ r) ∧ Blank w ∧ Written t d

def ItemsSound (fuel : Nat) : Prop := ∀ s ds r, readItems fuel s = (ds, some r) →
  ∃ items : List Padded, items ≠ [] ∧ s = commas (items.map (·.spelling)) ++ ']' :: r ∧
    ds = items.map (·.document) ∧ ∀ p ∈ items, Written p.text p.document

def MembersSound (fuel : Nat) : Prop := ∀ s ms r, readMembers fuel s = (ms, some r) →
  ∃ members : List (Padded × Padded), members ≠ [] ∧
    s = commas (members.map memberSpelling) ++ '}' :: r ∧
    ms = members.map (fun m => (m.1.document, m.2.document)) ∧
    (∀ m ∈ members, ∃ o, m.1.document = .string o) ∧
    (∀ m ∈ members, Written m.1.text m.1.document) ∧ ∀ m ∈ members, Written m.2.text m.2.document

theorem valueSound_succ {fuel : Nat} (hitems : ItemsSound fuel) (hmembers : MembersSound fuel) :
    ValueSound (fuel + 1) := by
  intro s d r h
  obtain ⟨w, hw, hs⟩ := exists_blank s
  suffices hwritten : ∃ t, skipSpace s = t ++ r ∧ Written t d by
    obtain ⟨t, ht, hwritten⟩ := hwritten
    exact ⟨w, t, ht ▸ hs, hw, hwritten⟩
  unfold readValue at h
  split at h
  · rename_i r' hskip
    rw [hskip]
    split at h
    · rename_i l _ hl
      cases h
      obtain ⟨t, rfl, ht⟩ := exists_spells_of_readPieces hl
      exact ⟨'"' :: (t ++ ['"']), by simp, .string ht fun _ => map_joinPieces_eq_some_iff⟩
    · cases h
  · rename_i r' hskip
    rw [hskip]
    obtain ⟨w', hw', hr'⟩ := exists_blank r'
    split at h
    · rename_i _ hskip'
      cases h
      exact ⟨'[' :: (w' ++ [']']), by rw [hr', hskip']; simp, .arrayBlank hw'⟩
    · rw [readItems_skipSpace] at h
      rcases hread : readItems fuel r' with ⟨ds, rest⟩
      rw [hread] at h
      cases h
      obtain ⟨items, hne, rfl, rfl, hwritten⟩ := hitems _ _ _ hread
      exact ⟨_, by simp, .array hne hwritten⟩
  · rename_i r' hskip
    rw [hskip]
    obtain ⟨w', hw', hr'⟩ := exists_blank r'
    split at h
    · rename_i _ hskip'
      cases h
      exact ⟨'{' :: (w' ++ ['}']), by rw [hr', hskip']; simp, .objectBlank hw'⟩
    · rw [readMembers_skipSpace] at h
      rcases hread : readMembers fuel r' with ⟨ms, rest⟩
      rw [hread] at h
      cases h
      obtain ⟨members, hne, rfl, rfl, hstring, hkey, hvalue⟩ := hmembers _ _ _ hread
      exact ⟨_, by simp, .object hne hstring hkey hvalue⟩
  · rename_i r' hskip
    cases h
    exact ⟨_, hskip, .bool true⟩
  · rename_i r' hskip
    cases h
    exact ⟨_, hskip, .bool false⟩
  · rename_i r' hskip
    cases h
    exact ⟨_, hskip, .null⟩
  · split at h
    · rename_i l _ hscan
      cases h
      obtain ⟨t, ht, hspelled⟩ := Numeral.exists_spelled_of_scan hscan
      exact ⟨t, ht, .number hspelled⟩
    · cases h

/-- A value, the blanks behind it and what comes then. -/
theorem exists_padded {fuel : Nat} (hvalue : ValueSound fuel) {s r r' : List Char} {d : Document}
    (h : readValue fuel s = (d, some r)) (hskip : skipSpace r = r') :
    ∃ p : Padded, s = p.spelling ++ r' ∧ p.document = d ∧ Written p.text p.document := by
  obtain ⟨w, t, rfl, hw, ht⟩ := hvalue s d r h
  obtain ⟨w', hw', hr⟩ := exists_blank r
  refine ⟨⟨w, t, w', d, hw, hw'⟩, ?_, rfl, ht⟩
  rw [hskip] at hr
  rw [hr]
  simp [Padded.spelling]

theorem commas_cons {x : List Char} {l : List (List Char)} (h : l ≠ []) :
    commas (x :: l) = x ++ ',' :: commas l := by
  cases l with
  | nil => exact absurd rfl h
  | cons y l => rfl

theorem itemsSound_succ {fuel : Nat} (hvalue : ValueSound fuel) (hitems : ItemsSound fuel) :
    ItemsSound (fuel + 1) := by
  intro s ds r h
  unfold readItems at h
  split at h
  · cases h
  · rename_i d r₁ hread
    split at h
    · rename_i _ hskip
      cases h
      obtain ⟨p, rfl, rfl, hp⟩ := exists_padded hvalue hread hskip
      exact ⟨[p], by simp, rfl, rfl, by simpa using hp⟩
    · rename_i r₂ hskip
      rcases hrest : readItems fuel r₂ with ⟨ds', rest⟩
      rw [hrest] at h
      cases h
      obtain ⟨p, rfl, rfl, hp⟩ := exists_padded hvalue hread hskip
      obtain ⟨items, hne, rfl, rfl, hwritten⟩ := hitems _ _ _ hrest
      refine ⟨p :: items, by simp, ?_, rfl, List.forall_mem_cons.mpr ⟨hp, hwritten⟩⟩
      rw [List.map_cons, commas_cons (by simpa using hne)]
      simp
    · cases h

theorem membersSound_succ {fuel : Nat} (hvalue : ValueSound fuel) (hmembers : MembersSound fuel) :
    MembersSound (fuel + 1) := by
  intro s ms r h
  unfold readMembers at h
  split at h
  · rename_i k r₁ hkey
    split at h
    · rename_i r₂ hskip
      obtain ⟨p, rfl, hpk, hp⟩ := exists_padded hvalue hkey hskip
      split at h
      · cases h
      · rename_i d r₃ hread
        split at h
        · rename_i r₄ hskip'
          cases h
          obtain ⟨q, rfl, rfl, hq⟩ := exists_padded hvalue hread hskip'
          refine ⟨[(p, q)], by simp, ?_, by simp [hpk], ?_, ?_, ?_⟩
          · simp [commas, memberSpelling]
          all_goals rw [List.forall_mem_singleton]
          exacts [⟨k, hpk⟩, hp, hq]
        · rename_i r₄ hskip'
          obtain ⟨q, rfl, rfl, hq⟩ := exists_padded hvalue hread hskip'
          rcases hrest : readMembers fuel r₄ with ⟨ms', rest⟩
          rw [hrest] at h
          cases h
          obtain ⟨members, hne, rfl, rfl, hstring, hkeys, hvalues⟩ := hmembers _ _ _ hrest
          refine ⟨(p, q) :: members, by simp, ?_, by simp [hpk], ?_, ?_, ?_⟩
          · rw [List.map_cons, commas_cons (by simpa using hne)]
            simp [memberSpelling]
          all_goals rw [List.forall_mem_cons]
          exacts [⟨⟨k, hpk⟩, hstring⟩, ⟨hp, hkeys⟩, ⟨hq, hvalues⟩]
        · cases h
    · cases h
  · cases h

theorem sound (fuel : Nat) : ValueSound fuel ∧ ItemsSound fuel ∧ MembersSound fuel := by
  induction fuel with
  | zero => refine ⟨?_, ?_, ?_⟩ <;> intro s d r h <;> cases h
  | succ fuel ih =>
    obtain ⟨hvalue, hitems, hmembers⟩ := ih
    exact ⟨valueSound_succ hitems hmembers, itemsSound_succ hvalue hitems,
      membersSound_succ hvalue hmembers⟩

end Sound

/-- The text of a document, with blanks on both sides. -/
def WrittenPadded (s : List Char) (d : Document) : Prop :=
  ∃ w t w', s = w ++ (t ++ w') ∧ Blank w ∧ Blank w' ∧ Written t d

/-- A text is read as a whole if and only if it is written for the document. -/
theorem read_eq_iff {s : List Char} {d : Document} : read s = (d, true) ↔ WrittenPadded s d := by
  constructor
  · intro h
    unfold read at h
    split at h
    · rename_i d' r hread
      obtain ⟨rfl, hr⟩ := Prod.mk.inj h
      obtain ⟨w, t, rfl, hw, ht⟩ := (sound _).1 _ _ _ hread
      obtain ⟨w', hw', hr'⟩ := exists_blank r
      rw [List.isEmpty_iff.mp hr, List.append_nil] at hr'
      exact ⟨w, t, r, rfl, hw, hr' ▸ hw', ht⟩
    · cases h
  · rintro ⟨w, t, w', hs, hw, hw', ht⟩
    exact read_of_readsPadded ⟨w, t, w', hs, hw, hw', reads_of_written ht⟩

end DeclRules.Json.Document

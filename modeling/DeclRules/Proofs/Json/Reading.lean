import DeclRules.Proofs.Json.Integers
import DeclRules.Proofs.Json.Strings

/-! # Printed text read back

`Reads s d` says that the reader takes the text `s` for the document `d`, whatever comes after it
that does not go on with a number. There is one fact for each form a value has when it is printed,
and together they give `reads_print`: a printed value without floats is read as that value.

The reader's fuel may be as little as the length of the text, since every step inside an array or
object passes at least one character. -/

namespace DeclRules.Json

/-- A value of which reading loses nothing: no floats, and at most `room` arrays and objects inside
each other. That integers fit 64 bits and members stand in the order of their keys is what `Number`
and `Value` say of all values. -/
inductive Readable : Nat → Value → Prop
  | null {room : Nat} : Readable room .null
  | bool {room : Nat} (b : Bool) : Readable room (.bool b)
  | int {room : Nat} {n : Int} (h : Number.InRange n) : Readable room (.number (.int n))
  | string {room : Nat} (s : String) : Readable room (.string s)
  | array {room : Nat} {items : List Value} (h : ∀ v ∈ items, Readable room v) :
    Readable (room + 1) (.array items)
  | object {room : Nat} {members : List (String × Value)} (ordered : Keyed.Ordered members)
    (h : ∀ m ∈ members, Readable room m.2) : Readable (room + 1) (.object members)

open Document

/-- The text is read as the document. -/
structure Reads (s : List Char) (d : Document) : Prop where
  head : ∃ c r, s = c :: r ∧ isSpace c = false ∧ c ≠ ']'
  read : ∀ fuel rest, s.length ≤ fuel → Ends rest → readValue fuel (s ++ rest) = (d, some rest)

/-- The first character takes the first step of the reader. -/
theorem Reads.of_cons {c : Char} {r : List Char} {d : Document} (hspace : isSpace c = false)
    (hclose : c ≠ ']') (h : ∀ fuel rest, r.length ≤ fuel → Ends rest →
      readValue (fuel + 1) (c :: (r ++ rest)) = (d, some rest)) : Reads (c :: r) d where
  head := ⟨c, r, rfl, hspace, hclose⟩
  read fuel rest hfuel hrest := by
    cases fuel with
    | zero => exact absurd hfuel (by simp)
    | succ fuel => exact h fuel rest (Nat.le_of_succ_le_succ hfuel) hrest

theorem skipSpace_cons {c : Char} {r : List Char} (h : isSpace c = false) :
    skipSpace (c :: r) = c :: r := by
  simp [skipSpace, h]

/-- Nothing but spaces, tabs and line ends. -/
def Blank (w : List Char) : Prop := ∀ c ∈ w, isSpace c = true

theorem blank_nil : Blank [] := by simp [Blank]

theorem skipSpace_blank {w : List Char} (hw : Blank w) (s : List Char) :
    skipSpace (w ++ s) = skipSpace s := List.dropWhile_append_of_pos hw

theorem skipSpace_skipSpace (s : List Char) : skipSpace (skipSpace s) = skipSpace s :=
  List.dropWhile_idempotent ..

theorem readValue_skipSpace (fuel : Nat) (s : List Char) :
    readValue fuel (skipSpace s) = readValue fuel s := by
  cases fuel with
  | zero => rfl
  | succ fuel => rw [readValue, readValue, skipSpace_skipSpace]

theorem readItems_skipSpace (fuel : Nat) (s : List Char) :
    readItems fuel (skipSpace s) = readItems fuel s := by
  cases fuel with
  | zero => rfl
  | succ fuel => rw [readItems, readItems, readValue_skipSpace]

theorem readMembers_skipSpace (fuel : Nat) (s : List Char) :
    readMembers fuel (skipSpace s) = readMembers fuel s := by
  cases fuel with
  | zero => rfl
  | succ fuel => rw [readMembers, readMembers, readValue_skipSpace]

theorem ends_blank {w rest : List Char} (hw : Blank w) (h : Ends rest) : Ends (w ++ rest) := by
  cases w with
  | nil => exact h
  | cons c w =>
    intro c' hc'
    cases Option.some.inj hc'
    have hc := hw c List.mem_cons_self
    simp only [isSpace, Bool.or_eq_true, beq_iff_eq] at hc
    rcases hc with ((rfl | rfl) | rfl) | rfl <;> decide

/-- The text is read as the document, and there may be blanks on both sides. -/
def ReadsPadded (s : List Char) (d : Document) : Prop :=
  ∃ w t w', s = w ++ (t ++ w') ∧ Blank w ∧ Blank w' ∧ Reads t d

theorem Reads.padded {s : List Char} {d : Document} (h : Reads s d) : ReadsPadded s d :=
  ⟨[], s, [], by simp, blank_nil, blank_nil, h⟩

/-- What is left behind the document may begin with blanks. -/
theorem ReadsPadded.exists_rest {s : List Char} {d : Document} (h : ReadsPadded s d) (fuel : Nat)
    (hfuel : s.length ≤ fuel) (rest : List Char) (hrest : Ends rest) :
    ∃ rest', readValue fuel (s ++ rest) = (d, some rest') ∧ skipSpace rest' = skipSpace rest := by
  obtain ⟨w, t, w', rfl, hw, hw', ht⟩ := h
  refine ⟨w' ++ rest, ?_, skipSpace_blank hw' rest⟩
  simp only [List.length_append] at hfuel
  rw [← readValue_skipSpace, List.append_assoc, skipSpace_blank hw, readValue_skipSpace,
    List.append_assoc]
  exact ht.read fuel _ (by omega) (ends_blank hw' hrest)

/-- Nothing that is read starts with a closing brace. -/
theorem Reads.ne_brace {c : Char} {r : List Char} {d : Document} (h : Reads (c :: r) d) :
    c ≠ '}' := by
  rintro rfl
  have hread := h.read (r.length + 1) [] le_rfl ends_nil
  have hbroken : readValue (r.length + 1) ('}' :: (r ++ [])) = (broken, none) := rfl
  rw [List.cons_append, hbroken] at hread
  cases congrArg Prod.snd hread

/-- After blanks there is a first character, which closes nothing. -/
theorem ReadsPadded.exists_head {s : List Char} {d : Document} (h : ReadsPadded s d)
    (rest : List Char) : ∃ c r, skipSpace (s ++ rest) = c :: r ∧ c ≠ ']' ∧ c ≠ '}' := by
  obtain ⟨w, t, w', rfl, hw, -, ht⟩ := h
  obtain ⟨c, r, rfl, hspace, hclose⟩ := ht.head
  refine ⟨c, r ++ (w' ++ rest), ?_, hclose, ht.ne_brace⟩
  rw [List.append_assoc, skipSpace_blank hw]
  simp [skipSpace_cons hspace]

section String

theorem reads_pieces {s : List Char} {l : List Piece} (h : Spells s l) :
    Reads ('"' :: (s ++ ['"'])) (.string ((joinPieces none l).map String.ofList)) :=
  .of_cons rfl (by decide) fun fuel rest _ _ => by
    simp only [List.append_assoc, List.cons_append, List.nil_append, readValue,
      skipSpace_cons (show isSpace '"' = false from rfl), readPieces_of_spells h]

theorem reads_string (s : String) : Reads (printString s) (.string (some s)) := by
  obtain ⟨l, hspells, hjoins⟩ := exists_spells_flatMap_escape s.toList
  have hread := reads_pieces hspells
  rwa [joinPieces_eq_some_iff.mpr hjoins, Option.map_some, String.ofList_toList] at hread

end String

theorem reads_null : Reads "null".toList .null :=
  .of_cons rfl (by decide) fun _ _ _ _ => rfl

theorem reads_bool (b : Bool) : Reads (Value.bool b).print (.bool b) := by
  cases b <;> exact .of_cons rfl (by decide) fun _ _ _ _ => rfl

section Number

theorem isSpace_of_numeric {c : Char} (h : c = '-' ∨ c.isDigit = true) : isSpace c = false := by
  rcases h with rfl | h
  · rfl
  · by_contra hspace
    simp only [isSpace, Bool.not_eq_false, Bool.or_eq_true, beq_iff_eq] at hspace
    rcases hspace with ((rfl | rfl) | rfl) | rfl <;> exact absurd h (by decide)

/-- What starts with a sign or a digit can only be a number. -/
theorem readValue_of_scan {c : Char} (h : c = '-' ∨ c.isDigit = true) {r rest : List Char}
    {l : Numeral} (hscan : Numeral.scan (c :: r) = some (l, rest)) (fuel : Nat) :
    readValue (fuel + 1) (c :: r) = (.number l.value, some rest) := by
  have hfirst : c ≠ '"' ∧ c ≠ '[' ∧ c ≠ '{' ∧ c ≠ 't' ∧ c ≠ 'f' ∧ c ≠ 'n' := by
    refine ⟨?_, ?_, ?_, ?_, ?_, ?_⟩ <;> rintro rfl <;> exact absurd h (by decide)
  obtain ⟨h₁, h₂, h₃, h₄, h₅, h₆⟩ := hfirst
  rw [readValue, skipSpace_cons (isSpace_of_numeric h)]
  simp [h₁, h₂, h₃, h₄, h₅, h₆, hscan]

theorem reads_numeral {l : Numeral} {s : List Char} (h : l.Spelled s) :
    Reads s (.number l.value) := by
  have hscan {rest : List Char} (hrest : Ends rest) := Numeral.scan_of_spelled h hrest
  obtain ⟨c, r, rfl, hc⟩ := h.exists_cons
  refine .of_cons (isSpace_of_numeric hc) ?_ fun fuel rest _ hrest =>
    readValue_of_scan hc (hscan hrest) fuel
  rintro rfl
  exact absurd hc (by decide)

/-- An integer is read as its literal says, which for one beyond 64 bits is not the integer. -/
theorem reads_int (i : Int) :
    Reads (Number.int i).text.toList (.number (Numeral.ofInt i).value) :=
  reads_numeral (Numeral.spelled_text i)

end Number

section Array

variable {texts : List (List Char)}

theorem readItems_commas {docs : List Document} (h : List.Forall₂ ReadsPadded texts docs)
    (hne : texts ≠ []) (rest : List Char) : ∀ fuel, (commas texts).length < fuel →
      readItems fuel (commas texts ++ ']' :: rest) = (docs, some rest) := by
  induction h with
  | nil => exact absurd rfl hne
  | @cons x d texts docs hx htexts ih =>
    intro fuel hfuel
    obtain ⟨fuel, rfl⟩ := Nat.exists_eq_succ_of_ne_zero (n := fuel) (by omega)
    -- the last item ends at the bracket, every other at a comma
    cases htexts with
    | nil =>
      simp only [commas] at hfuel ⊢
      obtain ⟨rest', hread, hrest'⟩ := hx.exists_rest fuel (by omega) (']' :: rest)
        (ends_cons (.inr (.inl rfl)))
      rw [skipSpace_cons rfl] at hrest'
      simp [readItems, hread, hrest']
    | @cons y e texts docs hy htexts =>
      simp only [commas, List.length_append, List.length_cons] at hfuel
      have hitems := ih (by simp) fuel (by omega)
      simp only [commas, List.append_assoc, List.cons_append]
      obtain ⟨rest', hread, hrest'⟩ := hx.exists_rest fuel (by omega)
        (',' :: (commas (y :: texts) ++ ']' :: rest)) (ends_cons (.inl rfl))
      rw [skipSpace_cons rfl] at hrest'
      simp [readItems, hread, hrest', hitems]

theorem readValue_bracket {c : Char} {r r' : List Char} (h : skipSpace r = c :: r')
    (hclose : c ≠ ']') (fuel : Nat) : readValue (fuel + 1) ('[' :: r) =
      (array (readItems fuel r).1 (readItems fuel r).2.isSome, (readItems fuel r).2) := by
  rw [← readItems_skipSpace, readValue, skipSpace_cons (show isSpace '[' = false from rfl)]
  simp only [h]
  split
  · rename_i heq
    exact absurd (List.cons.inj heq).1 hclose
  · rfl

theorem exists_commas_eq_append (x : List Char) (texts : List (List Char)) :
    ∃ r, commas (x :: texts) = x ++ r := by
  cases texts with
  | nil => exact ⟨[], (List.append_nil x).symm⟩
  | cons y texts => exact ⟨_, rfl⟩

theorem reads_array_padded {docs : List Document} (h : List.Forall₂ ReadsPadded texts docs)
    (hne : texts ≠ []) : Reads ('[' :: (commas texts ++ [']'])) (.array docs true) := by
  refine .of_cons rfl (by decide) fun fuel rest hfuel _ => ?_
  rw [List.length_append, List.length_singleton] at hfuel
  rw [List.append_assoc, List.singleton_append]
  have hitems := readItems_commas h hne rest fuel (by omega)
  obtain ⟨c, r, hc, hclose⟩ :
      ∃ c r, skipSpace (commas texts ++ ']' :: rest) = c :: r ∧ c ≠ ']' := by
    cases h with
    | nil => exact absurd rfl hne
    | @cons x _ texts _ hx _ =>
      obtain ⟨r, hr⟩ := exists_commas_eq_append x texts
      obtain ⟨c, r', hc, hclose, -⟩ := hx.exists_head (r ++ ']' :: rest)
      exact ⟨c, r', by rw [hr, List.append_assoc, hc], hclose⟩
  rw [readValue_bracket hc hclose, hitems]
  rfl

theorem reads_array_blank {w : List Char} (hw : Blank w) :
    Reads ('[' :: (w ++ [']'])) (.array [] true) := by
  refine .of_cons rfl (by decide) fun fuel rest _ _ => ?_
  have hskip : skipSpace (w ++ [']'] ++ rest) = ']' :: rest := by
    rw [List.append_assoc, skipSpace_blank hw]
    rfl
  rw [readValue, skipSpace_cons (show isSpace '[' = false from rfl)]
  simp only [hskip]

theorem reads_array {docs : List Document} (h : List.Forall₂ Reads texts docs) :
    Reads ('[' :: (commas texts ++ [']'])) (.array docs true) := by
  by_cases hne : texts = []
  · subst hne
    cases h
    exact reads_array_blank blank_nil
  · exact reads_array_padded (h.imp fun _ _ => Reads.padded) hne

end Array

section Object

variable {texts : List (List Char)}

/-- The text is read as a member of an object. -/
def ReadsMember (s : List Char) (m : Document × Document) : Prop :=
  ∃ key value, s = printString key ++ ':' :: value ∧ m.1 = .string (some key) ∧ Reads value m.2

/-- The text is read as a member of an object, and there may be blanks around key and value. -/
def ReadsMemberPadded (s : List Char) (m : Document × Document) : Prop :=
  ∃ key value o, s = key ++ ':' :: value ∧ m.1 = .string o ∧ ReadsPadded key m.1 ∧
    ReadsPadded value m.2

theorem ReadsMember.padded {s : List Char} {m : Document × Document} (h : ReadsMember s m) :
    ReadsMemberPadded s m := by
  obtain ⟨key, value, rfl, hm, hvalue⟩ := h
  exact ⟨printString key, value, some key, rfl, hm, hm ▸ (reads_string key).padded, hvalue.padded⟩

theorem ends_colon (r : List Char) : Ends (':' :: r) := by
  intro c hc
  cases Option.some.inj hc
  decide

theorem readMembers_commas {docs : List (Document × Document)}
    (h : List.Forall₂ ReadsMemberPadded texts docs) (hne : texts ≠ []) (rest : List Char) :
    ∀ fuel, (commas texts).length < fuel →
      readMembers fuel (commas texts ++ '}' :: rest) = (docs, some rest) := by
  induction h with
  | nil => exact absurd rfl hne
  | @cons x m texts docs hx htexts ih =>
    intro fuel hfuel
    obtain ⟨fuel, rfl⟩ := Nat.exists_eq_succ_of_ne_zero (n := fuel) (by omega)
    obtain ⟨k, d⟩ := m
    obtain ⟨key, value, o, rfl, rfl, hkey, hvalue⟩ := hx
    cases htexts with
    | nil =>
      simp only [commas, List.length_append, List.length_cons] at hfuel
      simp only [commas, List.append_assoc, List.cons_append]
      obtain ⟨r, hread, hr⟩ := hkey.exists_rest fuel (by omega) (':' :: (value ++ '}' :: rest))
        (ends_colon _)
      obtain ⟨r', hread', hr'⟩ := hvalue.exists_rest fuel (by omega) ('}' :: rest)
        (ends_cons (.inr (.inr rfl)))
      rw [skipSpace_cons rfl] at hr hr'
      simp [readMembers, hread, hr, hread', hr']
    | @cons y e texts docs hy htexts =>
      simp only [commas, List.length_append, List.length_cons] at hfuel
      have hmembers := ih (by simp) fuel (by omega)
      simp only [commas, List.append_assoc, List.cons_append]
      obtain ⟨r, hread, hr⟩ := hkey.exists_rest fuel (by omega)
        (':' :: (value ++ ',' :: (commas (y :: texts) ++ '}' :: rest))) (ends_colon _)
      obtain ⟨r', hread', hr'⟩ := hvalue.exists_rest fuel (by omega)
        (',' :: (commas (y :: texts) ++ '}' :: rest)) (ends_cons (.inl rfl))
      rw [skipSpace_cons rfl] at hr hr'
      simp [readMembers, hread, hr, hread', hr', hmembers]

theorem readValue_brace {c : Char} {r r' : List Char} (h : skipSpace r = c :: r')
    (hclose : c ≠ '}') (fuel : Nat) : readValue (fuel + 1) ('{' :: r) =
      (object (readMembers fuel r).1 (readMembers fuel r).2.isSome, (readMembers fuel r).2) := by
  rw [← readMembers_skipSpace, readValue, skipSpace_cons (show isSpace '{' = false from rfl)]
  simp only [h]
  split
  · rename_i heq
    exact absurd (List.cons.inj heq).1 hclose
  · rfl

theorem reads_object_padded {docs : List (Document × Document)}
    (h : List.Forall₂ ReadsMemberPadded texts docs) (hne : texts ≠ []) :
    Reads ('{' :: (commas texts ++ ['}'])) (.object docs true) := by
  refine .of_cons rfl (by decide) fun fuel rest hfuel _ => ?_
  rw [List.length_append, List.length_singleton] at hfuel
  rw [List.append_assoc, List.singleton_append]
  have hmembers := readMembers_commas h hne rest fuel (by omega)
  obtain ⟨c, r, hc, hclose⟩ :
      ∃ c r, skipSpace (commas texts ++ '}' :: rest) = c :: r ∧ c ≠ '}' := by
    cases h with
    | nil => exact absurd rfl hne
    | @cons x _ texts _ hx _ =>
      obtain ⟨r, hr⟩ := exists_commas_eq_append x texts
      obtain ⟨key, value, o, rfl, -, hkey, -⟩ := hx
      obtain ⟨c, r', hc, -, hclose⟩ := hkey.exists_head (':' :: value ++ (r ++ '}' :: rest))
      exact ⟨c, r', by rw [hr, List.append_assoc, List.append_assoc, hc], hclose⟩
  rw [readValue_brace hc hclose, hmembers]
  rfl

theorem reads_object_blank {w : List Char} (hw : Blank w) :
    Reads ('{' :: (w ++ ['}'])) (.object [] true) := by
  refine .of_cons rfl (by decide) fun fuel rest _ _ => ?_
  have hskip : skipSpace (w ++ ['}'] ++ rest) = '}' :: rest := by
    rw [List.append_assoc, skipSpace_blank hw]
    rfl
  rw [readValue, skipSpace_cons (show isSpace '{' = false from rfl)]
  simp only [hskip]

theorem reads_object {docs : List (Document × Document)}
    (h : List.Forall₂ ReadsMember texts docs) :
    Reads ('{' :: (commas texts ++ ['}'])) (.object docs true) := by
  by_cases hne : texts = []
  · subst hne
    cases h
    exact reads_object_blank blank_nil
  · exact reads_object_padded (h.imp fun _ _ => ReadsMember.padded) hne

end Object

section Value

theorem printItems_eq (l : List Value) : Value.printItems l = l.map Value.print := by
  induction l with
  | nil => rfl
  | cons v l ih => rw [Value.printItems, ih, List.map_cons]

theorem printMembers_eq (l : List (String × Value)) :
    Value.printMembers l = l.map fun m => printString m.1 ++ ':' :: m.2.print := by
  induction l with
  | nil => rfl
  | cons m l ih => rw [Value.printMembers, ih, List.map_cons]

theorem ofValues_eq (l : List Value) : ofValues l = l.map ofValue := by
  induction l with
  | nil => rfl
  | cons v l ih => rw [ofValues, ih, List.map_cons]

theorem ofMembers_eq (l : List (String × Value)) :
    ofMembers l = l.map fun m => (.string (some m.1), ofValue m.2) := by
  induction l with
  | nil => rfl
  | cons m l ih => rw [ofMembers, ih, List.map_cons]

theorem reads_print {room : Nat} {v : Value} (h : Readable room v) :
    Reads v.print (.ofValue v) := by
  induction h with
  | null => exact reads_null
  | bool b => exact reads_bool b
  | @int _ n hn =>
    have hread := reads_int n
    rwa [Numeral.value_ofInt hn] at hread
  | string s => exact reads_string s
  | @array room items _ ih =>
    refine reads_array ?_
    rw [printItems_eq, ofValues_eq, List.forall₂_map_left_iff, List.forall₂_map_right_iff,
      List.forall₂_same]
    exact ih
  | @object room members _ _ ih =>
    refine reads_object ?_
    rw [printMembers_eq, ofMembers_eq, List.forall₂_map_left_iff, List.forall₂_map_right_iff,
      List.forall₂_same]
    exact fun m hm => ⟨m.1, m.2.print, rfl, rfl, ih m hm⟩

/-- The document of a text that is read as a whole. -/
theorem read_of_readsPadded {s : List Char} {d : Document} (h : ReadsPadded s d) :
    Document.read s = (d, true) := by
  obtain ⟨rest, hread, hrest⟩ := h.exists_rest (2 * s.length + 2) (by omega) [] ends_nil
  rw [List.append_nil] at hread
  rw [Document.read, hread]
  simp only [hrest]
  rfl

theorem read_of_reads {s : List Char} {d : Document} (h : Reads s d) :
    Document.read s = (d, true) := read_of_readsPadded h.padded

end Value

end DeclRules.Json

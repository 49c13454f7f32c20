import DeclRules.Proofs.Declaration.Meaning

/-! # The canonical text of a declaration

A declaration has many texts, and one of them is printed. Two texts are of one declaration if and
only if what they are read as is printed the same, and the printed text is read back
(`Declaration.text_canonical`). This holds of declarations without floats, since a float need not
be read as it was printed. -/

namespace DeclRules

open Json

theorem Json.decodeText_eq_ok_iff {α : Type} {decoder : Source → Document → Decoded α} {s : String}
    {a : α} : decodeText decoder s = .ok a ↔
      ∃ doc, Document.WrittenPadded s.toList doc ∧ decoder .text doc = .ok a := by
  simp only [← Document.read_eq_iff, decodeText]
  rcases Document.read s.toList with ⟨doc, whole⟩
  constructor
  · intro h
    cases hdecode : decoder .text doc with
    | error e => simp [hdecode] at h
    | ok a' =>
      cases whole
      · simp [hdecode] at h
      · simp only [hdecode, if_true] at h
        exact ⟨doc, rfl, h ▸ hdecode⟩
  · rintro ⟨doc', hdoc, hdecode⟩
    cases hdoc
    simp [hdecode]

namespace Declaration

/-- The text is JSON, blanks on both sides included, of a document that denotes the declaration. -/
def IsTextOf (t : String) (d : Declaration) : Prop :=
  ∃ doc, Document.WrittenPadded t.toList doc ∧ Denotes doc d

/-- There are no floats in the attributes. -/
def FloatFree (d : Declaration) : Prop := ∀ a ∈ d.form.entries, a.2.FloatFree

theorem faultless_of_writtenPadded {s : List Char} {doc : Document}
    (h : Document.WrittenPadded s doc) : doc.Faultless := by
  obtain ⟨_, _, _, _, _, _, hwritten⟩ := h
  exact Document.faultless_of_written hwritten

/-- The texts that are read as a declaration are the texts of it. -/
theorem decodeText_eq_ok_iff {t : String} {d : Declaration} :
    decodeText decode t = .ok d ↔ IsTextOf t d := by
  rw [Json.decodeText_eq_ok_iff]
  exact exists_congr fun doc => and_congr_right fun hdoc =>
    decode_eq_ok_iff (faultless_of_writtenPadded hdoc)

/-- The form of a declaration is what a part of the document means, or it is empty. -/
theorem Denotes.form {doc : Document} {d : Declaration} (h : Denotes doc d)
    (hdoc : doc.Faultless) : (∃ v : Document, v.Faultless ∧
      v.Means (maxNesting - 1) (.object d.form.entries)) ∨ d.form = .empty := by
  have hgives {docs : List Document} (hdocs : ∀ v ∈ docs, v.Faultless)
      (h : Part.form.Gives docs (Part.form.of d)) : (∃ v : Document, v.Faultless ∧
        v.Means (maxNesting - 1) (.object d.form.entries)) ∨ d.form = .empty := by
    rcases h with ⟨v, rfl, hv⟩ | ⟨-, hnone⟩
    · exact .inl ⟨v, hdocs v (List.mem_singleton_self v), hv⟩
    · exact .inr (Option.some_inj.mp hnone).symm
  cases h with
  | object _ h =>
    cases hdoc with
    | object _ hvalues =>
      refine hgives (fun v hv => ?_) (h .form)
      obtain ⟨m, hm, rfl⟩ := exists_of_mem_valuesUnder hv
      exact hvalues m hm
  | array _ h =>
    cases hdoc with
    | array hitems =>
      refine hgives (fun v hv => ?_) (h .form)
      exact hitems v (List.mem_of_getElem? (Option.mem_toList.mp hv))

/-- The form of a declaration that was read can be read back. -/
theorem IsTextOf.readable {t : String} {d : Declaration} (h : IsTextOf t d) (hd : d.FloatFree) :
    Readable (maxNesting - 1) (.object d.form.entries) := by
  obtain ⟨doc, hwritten, hdoc⟩ := h
  obtain ⟨v, hv, hmeans⟩ | hempty := hdoc.form (faultless_of_writtenPadded hwritten)
  · exact hmeans.readable hv (.object hd)
  · rw [hempty]
    exact .object .nil (by simp [Keyed.empty])

/-- What is read is read back from its own text. -/
theorem decodeText_text_of_isTextOf {t : String} {d : Declaration} (h : IsTextOf t d)
    (hd : d.FloatFree) : decodeText decode d.text = .ok d :=
  decodeText_text (h.readable hd)

/-- A text is of one declaration at most. -/
theorem IsTextOf.unique {t : String} {d d' : Declaration} (h : IsTextOf t d)
    (h' : IsTextOf t d') : d = d' := by
  rw [← decodeText_eq_ok_iff] at h h'
  exact Except.ok.inj (h.symm.trans h')

/-- The texts that are read are those of declarations. What is read of a text is printed as a text
that is read the same and printed the same again, and two texts are printed the same if and only if
they are texts of one declaration. -/
theorem text_canonical {t t' : String} {d d' : Declaration} (ht : decodeText decode t = .ok d)
    (hd : d.FloatFree) (ht' : decodeText decode t' = .ok d') (hd' : d'.FloatFree) :
    (∀ s r, decodeText decode s = .ok r ↔ IsTextOf s r) ∧
      (∃ r, decodeText decode d.text = .ok r ∧ r = d ∧ r.text = d.text) ∧
      (d.text = d'.text ↔ ∃ r, IsTextOf t r ∧ IsTextOf t' r) := by
  rw [decodeText_eq_ok_iff] at ht ht'
  have hread := decodeText_text_of_isTextOf ht hd
  refine ⟨fun _ _ => decodeText_eq_ok_iff, ⟨d, hread, rfl, rfl⟩, ?_⟩
  constructor
  · intro htext
    have hread' := decodeText_text_of_isTextOf ht' hd'
    rw [← htext, hread] at hread'
    exact ⟨d, ht, Except.ok.inj hread' ▸ ht'⟩
  · rintro ⟨r, hr, hr'⟩
    rw [ht.unique hr, ht'.unique hr']

/-- A typedef with two attributes. -/
def idTypedef : Declaration where
  kind := .typedef
  name := "Id"
  access := .pub
  signature := "a\n"
  form := .ofList [("a", .object [("k", .string "x")]), ("b", .array [.int 1, .int (-2)])]

theorem floatFree_idTypedef : idTypedef.FloatFree := by
  have hentries : idTypedef.form.entries =
      [("a", .object [("k", .string "x")]), ("b", .array [.int 1, .int (-2)])] := by cbv
  rw [FloatFree, hentries]
  simp only [List.forall_mem_cons, List.not_mem_nil, false_imp_iff, implies_true, and_true]
  refine ⟨.object ?_, .array ?_⟩
  · rw [List.forall_mem_singleton]
    exact .string "x"
  · rw [List.forall_mem_cons, List.forall_mem_singleton]
    exact ⟨.int 1, .int (-2)⟩

/-- The typedef as an array, with an attribute given twice, an escape, and blanks. -/
def idItems : String :=
  " [\"typedef\", \"\", \"Id\", \x7b\"public\":null\x7d, \"\\u0061\\n\",\n" ++
    "\x7b\"b\":[1, -2], \"a\":false, \"a\":\x7b\"k\":\"x\"\x7d\x7d]"

/-- The typedef as an object, in another order and without its container. -/
def idMembers : String :=
  "\x7b\"signature\":\"a\\u000a\",\"kind\":\x7b\"typedef\":null\x7d,\"line\":null," ++
    "\"form\":\x7b\"a\":\x7b\"k\":\"x\"\x7d,\"b\":[1,-2]\x7d," ++
    "\"name\":\"Id\",\"access\":\"public\"\x7d"

theorem text_canonical_typedef :
    (decodeText decode idItems = .ok idTypedef ∧ decodeText decode idMembers = .ok idTypedef ∧
      idTypedef.FloatFree) ∧
    (∀ s r, decodeText decode s = .ok r ↔ IsTextOf s r) ∧
      (∃ r, decodeText decode idTypedef.text = .ok r ∧ r = idTypedef ∧ r.text = idTypedef.text) ∧
      (idTypedef.text = idTypedef.text ↔ ∃ r, IsTextOf idItems r ∧ IsTextOf idMembers r) := by
  have hitems : decodeText decode idItems = .ok idTypedef := by cbv
  have hmembers : decodeText decode idMembers = .ok idTypedef := by cbv
  exact ⟨⟨hitems, hmembers, floatFree_idTypedef⟩,
    text_canonical hitems floatFree_idTypedef hmembers floatFree_idTypedef⟩

end Declaration

end DeclRules

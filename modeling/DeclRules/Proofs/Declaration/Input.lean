import DeclRules.Proofs.Declaration.Canonical
import DeclRules.Proofs.Declaration.Lines
import DeclRules.Proofs.Text.Splitting

/-! # Input of declarations

Each line of an input says a declaration, or nothing if it is blank (`Declaration.Says`), or it
offends (`Declaration.Offends`). An input is read as the declarations that its lines say, and fails
as the first line that offends, under its number. So inputs can be read apart and put behind each
other with a line feed between them: the main statement is `Declaration.readLines_line_by_line`. A
fault that cuts an input short counts only if no line before it offends
(`Declaration.readInput_eq_error_iff`). -/

namespace DeclRules

open Json

/-- What denotes a declaration is written between brackets. -/
theorem Declaration.Denotes.bracketed {doc : Document} {d : Declaration} {t : List Char}
    (h : Denotes doc d) (ht : Document.Written t doc) :
    ∃ o u c, t = o :: (u ++ [c]) ∧ Text.isBlank o = false ∧ Text.isBlank c = false := by
  cases h with
  | object =>
    cases ht with
    | objectBlank => exact ⟨_, _, _, rfl, rfl, rfl⟩
    | object => exact ⟨_, _, _, rfl, rfl, rfl⟩
  | array =>
    cases ht with
    | arrayBlank => exact ⟨_, _, _, rfl, rfl, rfl⟩
    | array => exact ⟨_, _, _, rfl, rfl, rfl⟩

namespace Declaration

variable {s t : String} {d : Declaration} {l : Bytes} {o : Option Declaration}

theorem IsTextOf.not_blank (h : IsTextOf s d) : ¬ s.toList.all Text.isBlank := by
  obtain ⟨doc, ⟨w, t, w', hs, -, -, ht⟩, hd⟩ := h
  obtain ⟨c, u, _, rfl, hc, -⟩ := hd.bracketed ht
  intro hall
  rw [List.all_eq_true] at hall
  have := hall c (by simp [hs])
  simp [hc] at this

/-- A carriage return behind it is no part of a text of JSON. -/
theorem IsTextOf.of_concat (h : IsTextOf s d) (hs : s.toList = t.toList ++ ['\r']) :
    IsTextOf t d := by
  obtain ⟨doc, ⟨w, u, w', hsplit, hw, hw', hu⟩, hd⟩ := h
  refine ⟨doc, ?_, hd⟩
  obtain ⟨o, v, c, rfl, -, hc⟩ := hd.bracketed hu
  rw [hs] at hsplit
  -- what ends with a bracket does not end with a carriage return, so that is among the blanks
  rcases List.eq_nil_or_concat' w' with rfl | ⟨w', x, rfl⟩
  · have hend : t.toList ++ ['\r'] = (w ++ o :: v) ++ [c] := by simpa using hsplit
    obtain ⟨-, hcr⟩ := List.append_inj' hend rfl
    cases hcr
    cases hc
  · have hend : t.toList ++ ['\r'] = (w ++ (o :: (v ++ [c]) ++ w')) ++ [x] := by simpa using hsplit
    obtain ⟨ht, -⟩ := List.append_inj' hend rfl
    exact ⟨w, _, w', ht, hw, fun y hy => hw' y (List.mem_append_left _ hy), hu⟩

/-- What a line says. -/
inductive Says : Bytes → Option Declaration → Prop
  | blank {s : String} (h : s.toList.all Text.isBlank) : Says (Bytes.ofText s) none
  | record {s : String} {d : Declaration} (h : IsTextOf s d) :
    Says (Bytes.ofText s) (some d.normalize)

/-- What there is to complain of in a line. -/
inductive Offends : Bytes → Complaint → Prop
  | notUtf8 {l : Bytes} (h : ∀ s, l ≠ Bytes.ofText s) : Offends l .notUtf8
  | noRecord {s : String} {complaint : Complaint} (hblank : ¬ s.toList.all Text.isBlank)
    (hrecord : ∀ d, ¬ IsTextOf s d) (h : decodeText decode s = .error complaint) :
    Offends (Bytes.ofText s) complaint

theorem readLine_ofText (s : String) : readLine (Bytes.ofText s) =
    if s.toList.all Text.isBlank then .ok none
    else (decodeText decode s).map fun d => some d.normalize := by
  rw [readLine, Bytes.text?_ofText]

theorem readLine_eq_ok_iff : readLine l = .ok o ↔ Says l o := by
  constructor
  · intro h
    cases hs : l.text? with
    | none => simp [readLine, hs] at h
    | some s =>
      obtain rfl := Bytes.ofText_of_text? hs
      rw [readLine_ofText] at h
      split at h
      · rename_i hblank
        cases h
        exact .blank hblank
      · obtain ⟨d, hd, rfl⟩ := Except.map_eq_ok_iff.mp h
        exact .record (decodeText_eq_ok_iff.mp hd)
  · rintro (hblank | htext)
    · rw [readLine_ofText, if_pos hblank]
    · rw [readLine_ofText, if_neg htext.not_blank, decodeText_eq_ok_iff.mpr htext]
      rfl

theorem readLine_eq_error_iff {complaint : Complaint} :
    readLine l = .error complaint ↔ Offends l complaint := by
  constructor
  · intro h
    cases hs : l.text? with
    | none =>
      rw [readLine, hs] at h
      cases h
      refine .notUtf8 fun s hl => ?_
      rw [hl, Bytes.text?_ofText] at hs
      cases hs
    | some s =>
      obtain rfl := Bytes.ofText_of_text? hs
      rw [readLine_ofText] at h
      split at h
      · cases h
      · rename_i hblank
        cases hdecode : decodeText decode s with
        | ok d => simp [hdecode, Except.map] at h
        | error e =>
          rw [hdecode] at h
          cases h
          refine .noRecord hblank (fun d hd => ?_) hdecode
          rw [decodeText_eq_ok_iff.mpr hd] at hdecode
          cases hdecode
  · intro h
    cases h with
    | notUtf8 h =>
      have hnone : l.text? = none := by
        rw [Option.eq_none_iff_forall_ne_some]
        exact fun s hs => h s (Bytes.ofText_of_text? hs).symm
      rw [readLine, hnone]
    | noRecord hblank _ h =>
      rw [readLine_ofText, if_neg hblank, h]
      rfl

/-- A line says the same without a carriage return at its end. -/
theorem Says.dropReturn (h : Says l o) : Says l.dropReturn o := by
  rcases l.dropReturn_eq_self_or with heq | heq
  · rwa [heq]
  · generalize l.dropReturn = l' at heq
    cases h with
    | blank h =>
      obtain ⟨t, hs, rfl⟩ := Bytes.exists_of_ofText_eq_concat heq
      refine .blank ?_
      rw [hs, List.all_append, Bool.and_eq_true] at h
      exact h.1
    | record h =>
      obtain ⟨t, hs, rfl⟩ := Bytes.exists_of_ofText_eq_concat heq
      exact .record (h.of_concat hs)

/-- A line feed behind lines does not change what they say. -/
theorem exists_says_of_ended {ls ls' : List Bytes} {found : List (Option Declaration)}
    (h : Bytes.Ended ls ls') (hls : List.Forall₂ Says ls found) :
    ∃ found', List.Forall₂ Says ls' found' ∧ found'.filterMap id = found.filterMap id := by
  induction h generalizing found with
  | empty =>
    cases hls
    exact ⟨[none], .cons (.blank (s := "") rfl) .nil, rfl⟩
  | last l =>
    obtain ⟨o, _, ho, hnil, rfl⟩ := List.forall₂_cons_left_iff.mp hls
    cases hnil
    exact ⟨[o], .cons ho.dropReturn .nil, rfl⟩
  | cons l _ ih =>
    obtain ⟨o, found, ho, hfound, rfl⟩ := List.forall₂_cons_left_iff.mp hls
    obtain ⟨found', hfound', heq⟩ := ih hfound
    exact ⟨o :: found', .cons ho hfound', by simp only [List.filterMap_cons, heq]⟩

/-- The first line that offends, counted from one. -/
def FirstOffence (ls : List Bytes) (e : MalformedLine) : Prop :=
  ∃ i l, ls[i]? = some l ∧ (∀ j l', j < i → ls[j]? = some l' → ∃ o, Says l' o) ∧
    e.line = i + 1 ∧ Offends l e.complaint

/-- Lines in front that do not offend are counted too. -/
theorem FirstOffence.append {ls ls' : List Bytes} {e : MalformedLine}
    {found : List (Option Declaration)} (hls : List.Forall₂ Says ls found)
    (h : FirstOffence ls' e) : FirstOffence (ls ++ ls') ⟨e.line + ls.length, e.complaint⟩ := by
  obtain ⟨i, l, hi, hfirst, hline, hoffends⟩ := h
  refine ⟨ls.length + i, l, ?_, fun j l' hj hl' => ?_, ?_, hoffends⟩
  · rw [List.getElem?_append_right (Nat.le_add_right ..), Nat.add_sub_cancel_left, hi]
  · rw [List.getElem?_append] at hl'
    split at hl'
    · rename_i hlt
      obtain ⟨_, rfl⟩ := List.getElem?_eq_some_iff.mp hl'
      exact ⟨_, hls.get hlt (hls.length_eq ▸ hlt)⟩
    · exact hfirst _ l' (by omega) hl'
  · dsimp only
    omega

theorem readNumbered_eq_error_iff {n : Nat} {e : MalformedLine} :
    readNumbered (l, n) = .error e ↔ e.line = n ∧ Offends l e.complaint := by
  simp only [readNumbered, Except.mapError_eq_error_iff, readLine_eq_error_iff]
  constructor
  · rintro ⟨_, h, rfl⟩
    exact ⟨rfl, h⟩
  · rintro ⟨rfl, h⟩
    exact ⟨_, h, rfl⟩

/-- Reading fails as the first line that offends. -/
theorem readLines_eq_error_iff {input : Bytes} {e : MalformedLine} :
    readLines input = .error e ↔ FirstOffence input.lines e := by
  have hpure (found : List (Option Declaration)) :
      (pure (found.filterMap id) : Except MalformedLine _) ≠ .error e := by
    simp [pure, Except.pure]
  have hok (a : Bytes) (n : Nat) : (∃ o, readNumbered (a, n) = .ok o) ↔ ∃ o, Says a o := by
    simp only [readNumbered, Except.mapError_eq_ok_iff, readLine_eq_ok_iff]
  simp only [readLines, Except.bind_eq_error_iff, hpure, and_false, exists_false, or_false,
    Except.mapM_zipIdx_eq_error_iff, readNumbered_eq_error_iff, hok, FirstOffence, Nat.add_comm 1]

/-- An input is read through its lines. -/
structure LineByLine (input : Bytes) (ls : List Bytes) : Prop where
  splits_iff : ∀ ls', Bytes.Splits input ls' ↔ ls' = ls
  ok_iff : ∀ ds, readLines input = .ok ds ↔
    ∃ found, List.Forall₂ Says ls found ∧ ds = found.filterMap id
  error_iff : ∀ e, readLines input = .error e ↔ FirstOffence ls e

theorem lineByLine (input : Bytes) : LineByLine input input.lines where
  splits_iff _ := Bytes.splits_iff
  ok_iff ds := by
    rw [readLines_eq_ok_iff]
    simp only [readLine_eq_ok_iff]
  error_iff _ := readLines_eq_error_iff

/-- The input can be read to its end and holds the declarations. -/
def Holds (input : Input) (ds : List Declaration) : Prop :=
  input.fault = none ∧
    ∃ ls found, input.Splits ls ∧ List.Forall₂ Says ls found ∧ ds = found.filterMap id

/-- What is wrong with an input: a line of it, or that there is no more to read. -/
inductive Fails (input : Input) : InputError → Prop
  | malformed {ls : List Bytes} {e : MalformedLine} (hls : input.Splits ls)
    (h : FirstOffence ls e) : Fails input (.malformed e)
  | unreadable {ls : List Bytes} {found : List (Option Declaration)} {fault : Fault}
    (hls : input.Splits ls) (h : List.Forall₂ Says ls found) (hfault : input.fault = some fault) :
    Fails input (.unreadable fault)

theorem readInput_eq_ok_iff {input : Input} {ds : List Declaration} :
    readInput input = .ok ds ↔ Holds input ds := by
  have hread := (lineByLine input.readable).ok_iff
  simp only [readInput, Except.bind_eq_ok_iff, Except.mapError_eq_ok_iff, hread, Holds,
    Input.splits_iff, exists_and_left, exists_eq_left]
  cases input.fault with
  | none => simp [pure, Except.pure, eq_comm]
  | some fault => simp [throw, throwThe, MonadExceptOf.throw]

theorem readInput_eq_error_iff {input : Input} {e : InputError} :
    readInput input = .error e ↔ Fails input e := by
  obtain ⟨-, hok, herror⟩ := lineByLine input.readable
  rw [readInput, Except.bind_eq_error_iff]
  constructor
  · rintro (h | ⟨ds, hds, h⟩)
    · obtain ⟨offence, hlines, rfl⟩ := Except.mapError_eq_error_iff.mp h
      exact .malformed (Input.splits_iff.mpr rfl) ((herror _).mp hlines)
    · obtain ⟨found, hfound, -⟩ := (hok ds).mp (Except.mapError_eq_ok_iff.mp hds)
      cases hfault : input.fault with
      | none => simp [hfault, pure, Except.pure] at h
      | some fault =>
        rw [hfault] at h
        cases h
        exact .unreadable (Input.splits_iff.mpr rfl) hfound hfault
  · intro h
    cases h with
    | malformed hls h =>
      cases Input.splits_iff.mp hls
      exact .inl (Except.mapError_eq_error_iff.mpr ⟨_, (herror _).mpr h, rfl⟩)
    | unreadable hls h hfault =>
      cases Input.splits_iff.mp hls
      refine .inr ⟨_, Except.mapError_eq_ok_iff.mpr ((hok _).mpr ⟨_, h, rfl⟩), ?_⟩
      rw [hfault]
      rfl

/-- **An input is read line by line.** What is read are the declarations that its lines say; if
one of them offends, the first such line is named instead. Declarations read from an input are
followed by those of what comes behind it and a line feed, and lines there are counted on. -/
theorem readLines_line_by_line :
    (∀ input, ∃ ls, LineByLine input ls) ∧
    ∀ a b ds, readLines a = .ok ds →
      (∀ ds', readLines b = .ok ds' → readLines (a ++ 0x0A :: b) = .ok (ds ++ ds')) ∧
      ∀ e, readLines b = .error e → readLines (a ++ 0x0A :: b) =
        .error ⟨e.line + (a.count 0x0A + 1), e.complaint⟩ := by
  refine ⟨fun input => ⟨_, lineByLine input⟩, fun a b ds ha => ?_⟩
  -- with a line feed behind it the first input says the same, and no line goes across
  obtain ⟨_, hfound, rfl⟩ := ((lineByLine a).ok_iff ds).mp ha
  obtain ⟨ls, hended, hlength, hlines⟩ := a.splits_lines.followed
  obtain ⟨found, hls, heq⟩ := exists_says_of_ended hended hfound
  rw [← heq, ← hlength]
  have hboth := hlines b ▸ lineByLine (a ++ 0x0A :: b)
  refine ⟨fun ds' hb => ?_, fun e hb => ?_⟩
  · obtain ⟨found', hfound', rfl⟩ := ((lineByLine b).ok_iff ds').mp hb
    exact (hboth.ok_iff _).mpr ⟨found ++ found', List.rel_append hls hfound', by simp⟩
  · exact (hboth.error_iff _).mpr (.append hls (((lineByLine b).error_iff e).mp hb))

/-- A typedef that a line holds which no line feed ends. -/
def openTypedef : Declaration := { kind := .typedef, name := "f" }

def openLine : Bytes := Bytes.ofText "[\"typedef\",\"\",\"f\"]\r"

theorem says_openLine : Says openLine (some openTypedef) := by
  have hnormal : openTypedef.normalize = openTypedef := rfl
  have hread : decodeText decode "[\"typedef\",\"\",\"f\"]\r" = .ok openTypedef := by cbv
  exact hnormal ▸ .record (decodeText_eq_ok_iff.mp hread)

/-- The line is read before itself, and before an empty line and a byte that is no text. -/
theorem readLines_line_by_line_openLine :
    readLines openLine = .ok [openTypedef] ∧ readLines [0x0A, 0xFF] = .error ⟨2, .notUtf8⟩ ∧
    readLines (openLine ++ 0x0A :: openLine) = .ok [openTypedef, openTypedef] ∧
    readLines (openLine ++ [0x0A, 0x0A, 0xFF]) = .error ⟨3, .notUtf8⟩ := by
  have hfeed : 0x0A ∉ openLine := by decide
  have hfails : readLines [0x0A, 0xFF] = .error ⟨2, .notUtf8⟩ := by cbv
  obtain ⟨hlines, hbehind⟩ := readLines_line_by_line
  obtain ⟨ls, hls⟩ := hlines openLine
  obtain rfl := (hls.splits_iff _).mp (.last (by decide) hfeed)
  have hread := (hls.ok_iff _).mpr ⟨_, .cons says_openLine .nil, rfl⟩
  obtain ⟨hok, -⟩ := hbehind openLine openLine _ hread
  obtain ⟨-, herror⟩ := hbehind openLine [0x0A, 0xFF] _ hread
  refine ⟨hread, hfails, hok _ hread, ?_⟩
  rw [herror _ hfails, List.count_eq_zero_of_not_mem hfeed]

end Declaration

end DeclRules

import DeclRules.Pattern.Template
import DeclRules.Proofs.Text.FirstPlace

/-! # What a template expands to

`Context.Expands` is the reading of a template from left to right, said on the text alone: the
first opening is paired with the first closing brace behind it, the name between them gives way
to what it means (`Context.Means`), and the text behind the brace is read on by itself, so that
nothing inserted is ever read again. `Context.expandSlices?` is the same reading as a loop over
the byte offsets of a text in UTF-8, in which every slice has to begin and end between
characters. Main theorem: both are `Context.expand` (`Context.expand_reading`). -/

namespace DeclRules

namespace Template

def opening : List Char := ['$', '\x7b']

def closing : List Char := ['\x7d']

variable {s before after name rest : List Char} {meaning : List Char → List Char}

theorem splitName?_eq_some (h : FirstAt closing s name rest) : splitName? s = some (name, rest) := by
  induction name generalizing s with
  | nil =>
    rw [firstAt_nil_iff.mp h]
    rfl
  | cons c name ih =>
    obtain ⟨s, rfl⟩ : ∃ t, s = c :: t := ⟨_, h.eq⟩
    obtain ⟨hc, hs⟩ := firstAt_cons_iff.mp h
    have hne : c ≠ '\x7d' := fun heq => hc ⟨s, by rw [heq]; rfl⟩
    rw [splitName?, if_neg hne, ih hs, Option.map_some]

theorem splitName?_eq_none (h : ¬ closing <:+: s) : splitName? s = none := by
  induction s with
  | nil => rfl
  | cons c s ih =>
    obtain ⟨hc, hs⟩ := not_or.mp (mt List.infix_cons_iff.mpr h)
    have hne : c ≠ '\x7d' := fun heq => hc ⟨s, by rw [heq]; rfl⟩
    rw [splitName?, if_neg hne, ih hs, Option.map_none]

theorem parse_name (h : FirstAt closing after name rest) :
    parse (opening ++ after) = .name name :: parse rest := by
  have hsplit := splitName?_eq_some h
  simp only [opening, List.cons_append, List.nil_append]
  rw [parse]
  split
  · rename_i hsome
    obtain ⟨rfl, rfl⟩ := Prod.mk.inj (Option.some.inj (hsplit.symm.trans hsome))
    rfl
  · rename_i hnone
    cases hsplit.symm.trans hnone

theorem parse_unclosed (h : ¬ closing <:+: after) :
    parse (opening ++ after) = [.text (opening ++ after)] := by
  have hsplit := splitName?_eq_none h
  simp only [opening, List.cons_append, List.nil_append]
  rw [parse]
  split
  · rename_i hsome
    cases hsplit.symm.trans hsome
  · rfl

theorem parse_cons {c : Char} (h : ¬ opening <+: c :: s) : parse (c :: s) = .text [c] :: parse s := by
  rw [parse]
  rintro r rfl rfl
  exact h ⟨r, rfl⟩

@[simp] theorem render_nil : render meaning [] = [] := rfl

@[simp] theorem render_text (cs : List Char) (t : Template) :
    render meaning (.text cs :: t) = cs ++ render meaning t := rfl

@[simp] theorem render_name (n : List Char) (t : Template) :
    render meaning (.name n :: t) = meaning n ++ render meaning t := rfl

theorem render_parse_plain (h : ¬ opening <:+: s) : render meaning (parse s) = s := by
  induction s with
  | nil => simp [parse]
  | cons c s ih =>
    obtain ⟨hc, hs⟩ := not_or.mp (mt List.infix_cons_iff.mpr h)
    rw [parse_cons hc, render_text, ih hs]
    rfl

theorem render_parse_first (h : FirstAt opening s before after) :
    render meaning (parse s) = before ++ render meaning (parse (opening ++ after)) := by
  induction before generalizing s with
  | nil => rw [firstAt_nil_iff.mp h, List.nil_append]
  | cons c before ih =>
    obtain ⟨s, rfl⟩ : ∃ t, s = c :: t := ⟨_, h.eq⟩
    obtain ⟨hc, hs⟩ := firstAt_cons_iff.mp h
    rw [parse_cons hc, render_text, ih hs]
    rfl

end Template

namespace Context

open Template

variable {c : Context}

/-- The value of the first field that holds a group of the name, or nothing. -/
inductive Means (c : Context) (name : String) : String → Prop
  | group {before after : List FieldMatch} {m : FieldMatch} {value : String} :
    c.fields = before ++ m :: after → (∀ m' ∈ before, m'.named.get? name = none) →
    m.named.get? name = some value → Means c name value
  | missing : (∀ m ∈ c.fields, m.named.get? name = none) → Means c name ""

theorem means_named? (c : Context) (name : String) : c.Means name ((c.named? name).getD "") := by
  cases hnamed : c.named? name with
  | none => exact .missing (List.findSome?_eq_none_iff.mp hnamed)
  | some value =>
    obtain ⟨before, m, after, heq, hm, hbefore⟩ := List.findSome?_eq_some_iff.mp hnamed
    exact .group heq hbefore hm

theorem Means.eq {name value : String} (h : c.Means name value) :
    value = (c.named? name).getD "" := by
  cases h with
  | group heq hbefore hm =>
    rw [named?, List.findSome?_eq_some_iff.mpr ⟨_, _, _, heq, hm, hbefore⟩, Option.getD_some]
  | missing h => rw [named?, List.findSome?_eq_none_iff.mpr h, Option.getD_none]

/-- The text that a template stands for, read from left to right. -/
inductive Expands (c : Context) : List Char → List Char → Prop
  | plain {s : List Char} : ¬ opening <:+: s → Expands c s s
  | unclosed {s before after : List Char} :
    FirstAt opening s before after → ¬ closing <:+: after → Expands c s s
  | name {s before after name rest out : List Char} {value : String} :
    FirstAt opening s before after → FirstAt closing after name rest →
    c.Means (String.ofList name) value → Expands c rest out →
    Expands c s (before ++ value.toList ++ out)

/-- What the pieces of a text stand for. -/
def render (c : Context) (s : List Char) : List Char :=
  (parse s).render fun n => ((c.named? (String.ofList n)).getD "").toList

theorem toList_expand (c : Context) (template : String) :
    (c.expand template).toList = c.render template.toList := String.toList_ofList

/-- A text has an opening with a name, an opening that is never closed, or none. -/
theorem reading_cases (s : List Char) :
    ¬ opening <:+: s ∨ ∃ before after, FirstAt opening s before after ∧
      (¬ closing <:+: after ∨ ∃ name rest, FirstAt closing after name rest) := by
  by_cases hopen : opening <:+: s
  · obtain ⟨before, after, hs⟩ := exists_firstAt hopen
    refine .inr ⟨before, after, hs, ?_⟩
    exact (em (closing <:+: after)).symm.imp_right exists_firstAt
  · exact .inl hopen

section Render
variable {s before after name rest : List Char}

theorem render_plain (h : ¬ opening <:+: s) : c.render s = s := render_parse_plain h

theorem render_unclosed (h : FirstAt opening s before after) (hafter : ¬ closing <:+: after) :
    c.render s = s := by
  rw [render, render_parse_first h, parse_unclosed hafter, render_text, render_nil, h.eq]
  simp

theorem render_name (h : FirstAt opening s before after) (hname : FirstAt closing after name rest) :
    c.render s =
      before ++ ((c.named? (String.ofList name)).getD "").toList ++ c.render rest := by
  rw [render, render_parse_first h, parse_name hname, Template.render_name, List.append_assoc]
  rfl

theorem length_lt_of_firstAt (h : FirstAt opening s before after)
    (hname : FirstAt closing after name rest) : rest.length < s.length := by
  rw [h.eq, hname.eq]
  simp only [opening, closing, List.length_append, List.length_cons]
  omega

end Render

theorem expands_render (c : Context) (s : List Char) : c.Expands s (c.render s) := by
  induction hlength : s.length using Nat.strong_induction_on generalizing s with
  | _ n ih =>
    rcases reading_cases s with hplain | ⟨before, after, hopen, hunclosed | ⟨name, rest, hname⟩⟩
    · rw [render_plain hplain]
      exact .plain hplain
    · rw [render_unclosed hopen hunclosed]
      exact .unclosed hopen hunclosed
    · rw [render_name hopen hname]
      have hlt := length_lt_of_firstAt hopen hname
      exact .name hopen hname (c.means_named? _) (ih _ (hlength ▸ hlt) rest rfl)

theorem Expands.eq {s out : List Char} (h : c.Expands s out) : out = c.render s := by
  induction h with
  | plain h => rw [render_plain h]
  | unclosed hopen hafter => rw [render_unclosed hopen hafter]
  | name hopen hname hvalue _ ih => rw [render_name hopen hname, ih, hvalue.eq]

section Slices

/-- The text up to a byte offset, if no character is cut there. -/
def sliceTo? (s : String) (stop : Nat) : Option String := Bytes.text? ((Bytes.ofText s).take stop)

/-- The text from a byte offset on, if no character is cut there. -/
def sliceFrom? (s : String) (start : Nat) : Option String :=
  Bytes.text? ((Bytes.ofText s).drop start)

/-- The byte offset of the first place of a part. -/
def find? (part : List Char) (s : String) : Option Nat :=
  Bytes.offset? (Bytes.ofChars part) (Bytes.ofText s)

/-- One turn of the loop over a text: what it puts out, and the text left for the next turn, if
any. A slice that cuts a character ends everything. -/
def turn? (c : Context) (rest : String) : Option (String × Option String) :=
  match find? opening rest with
  | none => some (rest, none)
  | some start => do
    let before ← sliceTo? rest start
    let after ← sliceFrom? rest (start + 2)
    match find? closing after with
    | none => return (before ++ (← sliceFrom? rest start), none)
    | some stop =>
      let name ← sliceTo? after stop
      return (before ++ (c.named? name).getD "", some (← sliceFrom? after (stop + 1)))

theorem length_of_sliceFrom? {s t : String} {start : Nat} (h : sliceFrom? s start = some t) :
    (Bytes.ofText t).length = (Bytes.ofText s).length - start := by
  rw [Bytes.ofText_of_text? h, List.length_drop]

/-- Every turn leaves less than it found. -/
theorem length_of_turn? {rest out rest' : String} (h : c.turn? rest = some (out, some rest')) :
    (Bytes.ofText rest').length < (Bytes.ofText rest).length := by
  rw [turn?] at h
  split at h
  · cases h
  · rename_i start hopen
    obtain ⟨before, -, h⟩ := Option.bind_eq_some_iff.mp h
    obtain ⟨after, hafter, h⟩ := Option.bind_eq_some_iff.mp h
    split at h
    · obtain ⟨_, -, h⟩ := Option.bind_eq_some_iff.mp h
      cases h
    · obtain ⟨_, -, h⟩ := Option.bind_eq_some_iff.mp h
      obtain ⟨_, hrest, h⟩ := Option.bind_eq_some_iff.mp h
      cases h
      have hlt := Bytes.offset?_lt hopen
      rw [length_of_sliceFrom? hrest, length_of_sliceFrom? hafter]
      omega

/-- The reading as a loop over byte offsets. -/
def expandSlices? (c : Context) (rest : String) : Option String :=
  match h : c.turn? rest with
  | none => none
  | some (out, none) => some out
  | some (out, some rest') =>
    have := length_of_turn? h
    (expandSlices? c rest').map (out ++ ·)
termination_by (Bytes.ofText rest).length

theorem expandSlices?_last {rest out : String} (h : c.turn? rest = some (out, none)) :
    c.expandSlices? rest = some out := by
  rw [expandSlices?]
  split <;> simp_all

theorem expandSlices?_more {rest out rest' : String} (h : c.turn? rest = some (out, some rest')) :
    c.expandSlices? rest = (c.expandSlices? rest').map (out ++ ·) := by
  rw [expandSlices?]
  split <;> simp_all

variable {s before after name rest : List Char}

theorem asciiPart_opening : Bytes.AsciiPart opening := ⟨by simp [opening], by simp [opening]⟩

theorem asciiPart_closing : Bytes.AsciiPart closing := ⟨by simp [closing], by simp [closing]⟩

theorem find?_of_firstAt {part : List Char} (hpart : Bytes.AsciiPart part)
    (h : FirstAt part s before after) :
    find? part (String.ofList s) = some (Bytes.ofChars before).length := by
  rw [find?, Bytes.ofText_ofList, Bytes.offset?_ofChars hpart h]

theorem find?_eq_none {part : List Char} (hpart : Bytes.AsciiPart part) (h : ¬ part <:+: s) :
    find? part (String.ofList s) = none := by
  rw [find?, Bytes.ofText_ofList, Bytes.offset?_ofChars_eq_none hpart h]

theorem sliceTo?_ofList (s t : List Char) :
    sliceTo? (String.ofList (s ++ t)) (Bytes.ofChars s).length = some (String.ofList s) := by
  rw [sliceTo?, Bytes.ofText_ofList, Bytes.ofChars_append, List.take_left, Bytes.text?_ofChars]

theorem sliceFrom?_ofList (s t : List Char) {n : Nat} (hn : (Bytes.ofChars s).length = n) :
    sliceFrom? (String.ofList (s ++ t)) n = some (String.ofList t) := by
  rw [sliceFrom?, Bytes.ofText_ofList, Bytes.ofChars_append, List.drop_left' hn,
    Bytes.text?_ofChars]

/-- The text before a part and the one behind it, cut out by the place and length of the part. -/
theorem slices_of_firstAt {part : List Char} (h : FirstAt part s before after) :
    sliceTo? (String.ofList s) (Bytes.ofChars before).length = some (String.ofList before) ∧
      sliceFrom? (String.ofList s) (Bytes.ofChars before).length =
        some (String.ofList (part ++ after)) ∧
      sliceFrom? (String.ofList s) ((Bytes.ofChars before).length + (Bytes.ofChars part).length) =
        some (String.ofList after) := by
  refine ⟨?_, ?_, ?_⟩
  · rw [h.eq, List.append_assoc, sliceTo?_ofList]
  · rw [h.eq, List.append_assoc, sliceFrom?_ofList before _ rfl]
  · rw [h.eq, sliceFrom?_ofList (before ++ part) _ (by simp)]

theorem turn?_plain (h : ¬ opening <:+: s) :
    c.turn? (String.ofList s) = some (String.ofList s, none) := by
  rw [turn?, find?_eq_none asciiPart_opening h]

theorem turn?_unclosed (h : FirstAt opening s before after) (hafter : ¬ closing <:+: after) :
    c.turn? (String.ofList s) = some (String.ofList s, none) := by
  obtain ⟨hto, hat, hbehind⟩ := slices_of_firstAt h
  have htwo : (Bytes.ofChars opening).length = 2 := rfl
  rw [htwo] at hbehind
  rw [turn?, find?_of_firstAt asciiPart_opening h]
  simp only [hto, hat, hbehind, Option.bind_eq_bind, Option.bind_some]
  rw [find?_eq_none asciiPart_closing hafter]
  simp [h.eq, String.ofList_append]

theorem turn?_name (h : FirstAt opening s before after) (hname : FirstAt closing after name rest) :
    c.turn? (String.ofList s) = some (String.ofList before ++
      (c.named? (String.ofList name)).getD "", some (String.ofList rest)) := by
  obtain ⟨hto, -, hbehind⟩ := slices_of_firstAt h
  obtain ⟨hname?, -, hrest⟩ := slices_of_firstAt hname
  have htwo : (Bytes.ofChars opening).length = 2 := rfl
  have hone : (Bytes.ofChars closing).length = 1 := rfl
  rw [htwo] at hbehind
  rw [hone] at hrest
  rw [turn?, find?_of_firstAt asciiPart_opening h]
  simp only [hto, hbehind, Option.bind_eq_bind, Option.bind_some]
  rw [find?_of_firstAt asciiPart_closing hname]
  simp [hname?, hrest]

/-- No slice of the loop cuts a character, and the loop puts out what the pieces stand for. -/
theorem expandSlices?_ofList (c : Context) (s : List Char) :
    c.expandSlices? (String.ofList s) = some (String.ofList (c.render s)) := by
  induction hlength : s.length using Nat.strong_induction_on generalizing s with
  | _ n ih =>
    rcases reading_cases s with hplain | ⟨before, after, hopen, hunclosed | ⟨name, rest, hname⟩⟩
    · rw [expandSlices?_last (turn?_plain hplain), render_plain hplain]
    · rw [expandSlices?_last (turn?_unclosed hopen hunclosed), render_unclosed hopen hunclosed]
    · have hrest := ih _ (hlength ▸ length_lt_of_firstAt hopen hname) rest rfl
      rw [expandSlices?_more (turn?_name hopen hname), hrest, render_name hopen hname]
      simp [String.ofList_append, String.append_assoc]

end Slices

/-- A template expands to its one reading from left to right, and the loop over byte offsets ends
with that text for every template. -/
theorem expand_reading (c : Context) (template : String) :
    (∀ out : String, c.Expands template.toList out.toList ↔ out = c.expand template) ∧
      c.expandSlices? template = some (c.expand template) := by
  refine ⟨fun out => ?_, ?_⟩
  · constructor
    · intro h
      rw [← String.toList_inj, toList_expand]
      exact h.eq
    · rintro rfl
      rw [toList_expand]
      exact c.expands_render _
  · rw [← String.ofList_toList (s := template), expandSlices?_ofList, ← toList_expand,
      String.ofList_toList, String.ofList_toList]

end Context

end DeclRules

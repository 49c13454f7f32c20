import DeclRules.Proofs.Declaration.Record
import DeclRules.Proofs.Json.Meaning

/-! # Which declaration a document denotes

A declaration has six parts (`Declaration.Part`). A document gives them by name or in order, and
where it leaves one out that may be missing there is a value for it: `Declaration.Denotes` says so
for both notations at once. Of documents without faults the decoder takes exactly those that denote
a declaration, for that declaration (`Declaration.decode_eq_ok_iff`). -/

namespace DeclRules

open Json

/-- A table of things by their texts finds what has the text. -/
theorem lookup_text_iff {α : Type} {text : α → String} (hinj : text.Injective) {all : List α}
    {a : α} (ha : a ∈ all) {s : String} :
    (all.map fun a => (text a, a)).lookup s = some a ↔ s = text a := by
  have hsound {s : String} {a : α} (h : (all.map fun a => (text a, a)).lookup s = some a) :
      s = text a := by
    obtain ⟨before, after, hall, -⟩ := List.lookup_eq_some_iff.mp h
    have hmem : (s, a) ∈ all.map fun a => (text a, a) := by simp [hall]
    obtain ⟨a', -, ha'⟩ := List.mem_map.mp hmem
    cases ha'
    rfl
  refine ⟨hsound, ?_⟩
  rintro rfl
  have hsome : ((all.map fun a => (text a, a)).lookup (text a)).isSome :=
    List.lookup_isSome_iff.mpr ⟨(text a, a), List.mem_map_of_mem ha, by simp⟩
  obtain ⟨a', ha'⟩ := Option.isSome_iff_exists.mp hsome
  exact (hinj (hsound ha')).symm ▸ ha'

theorem Kind.text_injective : Kind.text.Injective := by
  intro k k' h
  cases k <;> cases k' <;> first | rfl | exact absurd h (by decide)

theorem Access.text_injective : Access.text.Injective := by
  intro a a' h
  cases a <;> cases a' <;> first | rfl | exact absurd h (by decide)

theorem Kind.decode_eq_ok_iff {d : Document} {k : Kind} :
    Kind.decode .text d = .ok k ↔ d.Names k.text :=
  Document.toChoice_bare_eq_ok_iff fun _ k => lookup_text_iff text_injective (by cases k <;> decide)

theorem Access.decode_eq_ok_iff {d : Document} {a : Access} :
    Access.decode .text d = .ok a ↔ d.Names a.text :=
  Document.toChoice_bare_eq_ok_iff fun _ a => lookup_text_iff text_injective (by cases a <;> decide)

namespace Declaration

/-- What a declaration consists of, in order. -/
inductive Part where
  | kind
  | container
  | name
  | access
  | signature
  | form
deriving DecidableEq

namespace Part

def key : Part → String
  | kind => "kind"
  | container => "container"
  | name => "name"
  | access => "access"
  | signature => "signature"
  | form => "form"

/-- The place in an array. -/
def place : Part → Nat
  | kind => 0
  | container => 1
  | name => 2
  | access => 3
  | signature => 4
  | form => 5

abbrev Content : Part → Type
  | kind => Kind
  | container | name | signature => String
  | access => Access
  | form => Form

def of (d : Declaration) : (p : Part) → p.Content
  | kind => d.kind
  | container => d.container
  | name => d.name
  | access => d.access
  | signature => d.signature
  | form => d.form

/-- What is taken where the part is left out, if it may be. -/
def default? : (p : Part) → Option p.Content
  | kind | name => none
  | container | signature => some ""
  | access => some .unspecified
  | form => some .empty

/-- The document has the content. A form may nest one level less than a text, as it stands inside
the declaration. -/
def Means : (p : Part) → Document → p.Content → Prop
  | kind, v, k => v.Names k.text
  | container, v, s | name, v, s | signature, v, s => v = .string (some s)
  | access, v, a => v.Names a.text
  | form, v, f => v.Means (maxNesting - 1) (.object f.entries)

/-- What the documents for a part say: there is one, which means the content, or there is none and
the content is that of a part that is left out. -/
def Gives (p : Part) (docs : List Document) (c : p.Content) : Prop :=
  (∃ v, docs = [v] ∧ p.Means v c) ∨ (docs = [] ∧ p.default? = some c)

end Part

/-- The values of the members of the name. -/
def valuesUnder (key : String) (members : List (Document × Document)) : List Document :=
  members.filterMap fun m => match m.1 with
    | .string (some k) => if k = key then some m.2 else none
    | _ => none

theorem exists_of_mem_valuesUnder {key : String} {members : List (Document × Document)}
    {v : Document} (h : v ∈ valuesUnder key members) : ∃ m ∈ members, m.2 = v := by
  obtain ⟨m, hm, hv⟩ := List.mem_filterMap.mp h
  refine ⟨m, hm, ?_⟩
  split at hv
  · split at hv
    · exact Option.some_inj.mp hv
    · cases hv
  · cases hv

/-- The document denotes the declaration. Beside the parts an object may have members of any other
names, and an array may leave out the last parts. -/
inductive Denotes : Document → Declaration → Prop
  | object {members : List (Document × Document)} {d : Declaration}
    (hkey : ∀ m ∈ members, ∃ k, m.1 = .string (some k))
    (h : ∀ p : Part, p.Gives (valuesUnder p.key members) (p.of d)) :
    Denotes (.object members true) d
  | array {items : List Document} {d : Declaration} (hlength : items.length ≤ 6)
    (h : ∀ p : Part, p.Gives items[p.place]?.toList (p.of d)) : Denotes (.array items true) d

namespace Part

/-- What has been met of the part. -/
def met (m : Members) : (p : Part) → Option p.Content
  | kind => m.kind
  | container => m.container
  | name => m.name
  | access => m.access
  | signature => m.signature
  | form => m.form

/-- The part is met now. -/
def meet (m : Members) : (p : Part) → p.Content → Members
  | kind, k => { m with kind := some k }
  | container, s => { m with container := some s }
  | name, s => { m with name := some s }
  | access, a => { m with access := some a }
  | signature, s => { m with signature := some s }
  | form, f => { m with form := some f }

/-- How the part is decoded. -/
def read : (p : Part) → Document → Decoded p.Content
  | kind, v => Kind.decode .text v
  | container, v | name, v | signature, v => v.toText "a string"
  | access, v => Access.decode .text v
  | form, v => v.toKeyed (maxNesting - 1)

section Members

variable {p q : Part} {m m' : Members}

theorem met_meet_self (m : Members) (p : Part) (c : p.Content) : p.met (p.meet m c) = some c := by
  cases p <;> rfl

theorem met_meet_of_ne (h : q ≠ p) (m : Members) (c : p.Content) :
    q.met (p.meet m c) = q.met m := by
  cases p <;> cases q <;> first | rfl | exact absurd rfl h

theorem eq_of_met (h : ∀ p : Part, p.met m = p.met m') : m = m' := by
  cases m
  cases m'
  simp only [Members.mk.injEq]
  exact ⟨h kind, h container, h name, h access, h signature, h form⟩

@[simp] theorem met_empty (p : Part) : p.met {} = none := by
  cases p <;> rfl

/-- The parts can be met in any way. -/
theorem exists_met (f : (p : Part) → Option p.Content) : ∃ m : Members, ∀ p : Part, p.met m = f p :=
  ⟨⟨f kind, f container, f name, f access, f signature, f form⟩, fun p => by cases p <;> rfl⟩

theorem key_injective : key.Injective := by
  intro p q h
  cases p <;> cases q <;> first | rfl | exact absurd h (by decide)

theorem key_mem_memberNames (p : Part) : p.key ∈ memberNames := by
  cases p <;> decide

theorem exists_key_of_mem {k : String} (h : k ∈ memberNames) : ∃ p : Part, k = p.key := by
  simp only [memberNames, List.mem_cons, List.not_mem_nil, or_false] at h
  rcases h with rfl | rfl | rfl | rfl | rfl | rfl
  exacts [⟨kind, rfl⟩, ⟨container, rfl⟩, ⟨name, rfl⟩, ⟨access, rfl⟩, ⟨signature, rfl⟩, ⟨form, rfl⟩]

/-- Reading a part gives what the document means for it. -/
theorem read_eq_ok_iff {v : Document} {c : p.Content} : p.read v = .ok c ↔ p.Means v c := by
  cases p with
  | kind => exact Kind.decode_eq_ok_iff
  | access => exact Access.decode_eq_ok_iff
  | form =>
    change Document.toKeyed (maxNesting - 1) v = .ok c ↔ _
    rw [Document.toKeyed_eq_ok_iff]
    rfl
  | _ => exact Document.toText_eq_ok_iff

theorem member_key (p : Part) (v : Document) (m : Members) :
    member .text (maxNesting - 1) p.key v m =
      once p.key (p.met m) (p.read v) >>= fun c => .ok (some (p.meet m c)) := by
  cases p <;> rfl

theorem once_eq_ok_iff {α : Type} {key : String} {old : Option α} {read : Decoded α} {a : α} :
    once key old read = .ok a ↔ old = none ∧ read = .ok a := by
  cases old <;> simp [once]

theorem member_key_eq_ok_iff {v : Document} {o : Option Members} :
    member .text (maxNesting - 1) p.key v m = .ok o ↔
      p.met m = none ∧ ∃ c, p.Means v c ∧ o = some (p.meet m c) := by
  rw [member_key, Except.bind_eq_ok_iff]
  constructor
  · rintro ⟨c, hc, ho⟩
    cases ho
    obtain ⟨hmet, hc⟩ := once_eq_ok_iff.mp hc
    exact ⟨hmet, c, read_eq_ok_iff.mp hc, rfl⟩
  · rintro ⟨hmet, c, hc, rfl⟩
    exact ⟨c, once_eq_ok_iff.mpr ⟨hmet, read_eq_ok_iff.mpr hc⟩, rfl⟩

end Members

/-- What has been met of the part once there were some more documents for it. -/
inductive Fills (p : Part) (old : Option p.Content) : List Document → Option p.Content → Prop
  | none : Fills p old [] old
  | one {v : Document} {c : p.Content} (hold : old = .none) (h : p.Means v c) :
    Fills p old [v] (some c)

theorem fills_nil_iff {p : Part} {old o : Option p.Content} : p.Fills old [] o ↔ o = old := by
  constructor
  · rintro (_ | _)
    rfl
  · rintro rfl
    exact .none

theorem fills_cons_iff {p : Part} {old : Option p.Content} {v : Document} {docs : List Document}
    {o : Option p.Content} : p.Fills old (v :: docs) o ↔
      old = .none ∧ ∃ c, p.Means v c ∧ p.Fills (some c) docs o := by
  constructor
  · intro h
    cases h with
    | one hold h => exact ⟨hold, _, h, .none⟩
  · rintro ⟨hold, c, h, hrest⟩
    cases hrest with
    | none => exact .one hold h
    | one hsome => cases hsome

/-- What documents give is what has been met after them, or there for a part not met. -/
theorem gives_iff {p : Part} {docs : List Document} {c : p.Content} : p.Gives docs c ↔
    ∃ o, p.Fills .none docs o ∧ (o = some c ∨ o = .none ∧ p.default? = some c) := by
  constructor
  · rintro (⟨v, rfl, hv⟩ | ⟨rfl, hc⟩)
    · exact ⟨some c, .one rfl hv, .inl rfl⟩
    · exact ⟨.none, .none, .inr ⟨rfl, hc⟩⟩
  · rintro ⟨o, hfills, ho⟩
    cases hfills with
    | none =>
      obtain ⟨⟨⟩⟩ | ⟨-, hc⟩ := ho
      exact .inr ⟨rfl, hc⟩
    | one _ hv =>
      obtain h | ⟨⟨⟩, -⟩ := ho
      cases h
      exact .inl ⟨_, rfl, hv⟩

end Part

section Object

variable {members : List (Document × Document)} {m m' : Members}

theorem valuesUnder_cons_self (key : String) (v : Document) :
    valuesUnder key ((.string (some key), v) :: members) = v :: valuesUnder key members := by
  simp [valuesUnder]

theorem valuesUnder_cons_of_ne {key k : String} (h : k ≠ key) (v : Document) :
    valuesUnder key ((.string (some k), v) :: members) = valuesUnder key members := by
  simp [valuesUnder, h]

theorem foldFields_key_eq_ok_iff {p : Part} {v : Document} :
    Document.foldFields (member .text (maxNesting - 1)) ((.string (some p.key), v) :: members) m =
      .ok m' ↔ p.met m = none ∧ ∃ c, p.Means v c ∧
        Document.foldFields (member .text (maxNesting - 1)) members (p.meet m c) = .ok m' := by
  rw [Document.foldFields_cons_eq_ok_iff]
  constructor
  · rintro ⟨k, hk, ⟨m₁, hm₁, h⟩ | ⟨hnone, -⟩⟩
    · cases hk
      obtain ⟨hmet, c, hc, heq⟩ := Part.member_key_eq_ok_iff.mp hm₁
      cases heq
      exact ⟨hmet, c, hc, h⟩
    · cases hk
      obtain ⟨-, c, -, heq⟩ := Part.member_key_eq_ok_iff.mp hnone
      cases heq
  · rintro ⟨hmet, c, hc, h⟩
    exact ⟨p.key, rfl, .inl ⟨_, Part.member_key_eq_ok_iff.mpr ⟨hmet, c, hc, rfl⟩, h⟩⟩

theorem fills_key_iff {p : Part} {v : Document} :
    (∀ q : Part, q.Fills (q.met m) (valuesUnder q.key ((.string (some p.key), v) :: members))
      (q.met m')) ↔ p.met m = none ∧ ∃ c, p.Means v c ∧
        ∀ q : Part, q.Fills (q.met (p.meet m c)) (valuesUnder q.key members) (q.met m') := by
  have hne {q : Part} (hq : q ≠ p) (c : p.Content) :
      q.Fills (q.met m) (valuesUnder q.key ((.string (some p.key), v) :: members)) (q.met m') ↔
        q.Fills (q.met (p.meet m c)) (valuesUnder q.key members) (q.met m') := by
    rw [valuesUnder_cons_of_ne (Part.key_injective.ne (Ne.symm hq)), Part.met_meet_of_ne hq]
  constructor
  · intro h
    have hp := h p
    rw [valuesUnder_cons_self, Part.fills_cons_iff] at hp
    obtain ⟨hmet, c, hc, hrest⟩ := hp
    refine ⟨hmet, c, hc, fun q => ?_⟩
    by_cases hq : q = p
    · subst hq
      rwa [Part.met_meet_self]
    · exact (hne hq c).mp (h q)
  · rintro ⟨hmet, c, hc, h⟩ q
    by_cases hq : q = p
    · subst hq
      have hq := h q
      rw [Part.met_meet_self] at hq
      rw [valuesUnder_cons_self, Part.fills_cons_iff]
      exact ⟨hmet, c, hc, hq⟩
    · exact (hne hq c).mpr (h q)

/-- Every member of an object says something of one part, or of none. -/
theorem foldFields_eq_ok_iff (hignore : ∀ e ∈ members, e.2.ignore = .ok ()) :
    Document.foldFields (member .text (maxNesting - 1)) members m = .ok m' ↔
      (∀ e ∈ members, ∃ k, e.1 = .string (some k)) ∧
      ∀ p : Part, p.Fills (p.met m) (valuesUnder p.key members) (p.met m') := by
  induction members generalizing m with
  | nil =>
    have hnil (p : Part) : p.Fills (p.met m) (valuesUnder p.key []) (p.met m') ↔
        p.met m' = p.met m := Part.fills_nil_iff
    simp only [hnil]
    constructor
    · intro h
      cases h
      exact ⟨by simp, fun p => rfl⟩
    · rintro ⟨-, h⟩
      rw [Part.eq_of_met h]
      rfl
  | cons e members ih =>
    obtain ⟨d, v⟩ := e
    obtain ⟨hv, hmembers⟩ := List.forall_mem_cons.mp hignore
    rw [List.forall_mem_cons]
    -- The member is of a part, of no part, or its key is no string.
    by_cases hd : ∃ k, d = .string (some k)
    · obtain ⟨k, rfl⟩ := hd
      by_cases hk : k ∈ memberNames
      · obtain ⟨p, rfl⟩ := Part.exists_key_of_mem hk
        rw [foldFields_key_eq_ok_iff, fills_key_iff]
        simp only [ih hmembers]
        tauto
      · have hunder (p : Part) : valuesUnder p.key ((.string (some k), v) :: members) =
            valuesUnder p.key members := by
          refine valuesUnder_cons_of_ne ?_ v
          rintro rfl
          exact hk p.key_mem_memberNames
        rw [Document.foldFields_passed (member_of_notMem hk _ v m) hv, ih hmembers]
        simp [hunder]
    · refine iff_of_false (fun h => hd ?_) (fun h => hd h.1.1)
      obtain ⟨k, hk, -⟩ := Document.foldFields_cons_eq_ok_iff.mp h
      exact ⟨k, hk⟩

theorem required_eq_ok_iff {α : Type} {key : String} {o : Option α} {a : α} :
    required key o = .ok a ↔ o = some a := by
  cases o <;> simp [required]

/-- The parts that were met are taken, and of the others what there is for them. -/
theorem ofMembers_eq_ok_iff {d : Declaration} : ofMembers m = .ok d ↔
    ∀ p : Part, p.met m = some (p.of d) ∨ p.met m = none ∧ p.default? = some (p.of d) := by
  have hgetD {α : Type} {o : Option α} {a b : α} : o.getD a = b ↔
      o = some b ∨ o = none ∧ some a = some b := by
    rw [Option.getD_eq_iff, Option.some_inj]
  constructor
  · intro h
    obtain ⟨kind, hkind, h⟩ := Except.bind_eq_ok_iff.mp h
    obtain ⟨name, hname, h⟩ := Except.bind_eq_ok_iff.mp h
    cases h
    intro p
    cases p with
    | kind => exact .inl (required_eq_ok_iff.mp hkind)
    | name => exact .inl (required_eq_ok_iff.mp hname)
    | container => exact hgetD.mp rfl
    | access => exact hgetD.mp rfl
    | signature => exact hgetD.mp rfl
    | form => exact hgetD.mp rfl
  · intro h
    have hkind : m.kind = some d.kind := by
      obtain h | ⟨-, ⟨⟩⟩ := h .kind
      exact h
    have hname : m.name = some d.name := by
      obtain h | ⟨-, ⟨⟩⟩ := h .name
      exact h
    rw [ofMembers, required_eq_ok_iff.mpr hkind, required_eq_ok_iff.mpr hname]
    have hcontainer : m.container.getD "" = d.container := hgetD.mpr (h .container)
    have haccess : m.access.getD .unspecified = d.access := hgetD.mpr (h .access)
    have hsignature : m.signature.getD "" = d.signature := hgetD.mpr (h .signature)
    have hform : m.form.getD .empty = d.form := hgetD.mpr (h .form)
    rw [hcontainer, haccess, hsignature, hform]
    rfl

/-- An object without faults is decoded as the declaration it denotes. -/
theorem decode_object_eq_ok_iff {closed : Bool} {d : Declaration}
    (hignore : ∀ e ∈ members, e.2.ignore = .ok ()) :
    decode .text (.object members closed) = .ok d ↔ Denotes (.object members closed) d := by
  constructor
  · intro h
    obtain ⟨m, hm, h⟩ := Except.bind_eq_ok_iff.mp h
    obtain ⟨_, hclosed, h⟩ := Except.bind_eq_ok_iff.mp h
    cases Document.ensureClosed_eq_ok_iff.mp hclosed
    obtain ⟨hkey, hfills⟩ := (foldFields_eq_ok_iff hignore).mp hm
    simp only [Part.met_empty] at hfills
    exact .object hkey fun p => Part.gives_iff.mpr ⟨_, hfills p, ofMembers_eq_ok_iff.mp h p⟩
  · intro h
    cases h with
    | object hkey h =>
      choose f hfills hgiven using fun p => Part.gives_iff.mp (h p)
      obtain ⟨m, hm⟩ := Part.exists_met f
      simp only [← hm] at hfills hgiven
      have hfold := (foldFields_eq_ok_iff (m := {}) hignore).mpr
        ⟨hkey, by simpa only [Part.met_empty] using hfills⟩
      rw [decode, hfold]
      exact ofMembers_eq_ok_iff.mpr hgiven

end Object

section Array

variable {items : List Document} {d : Declaration}

theorem Part.forall_iff {P : Part → Prop} : (∀ p, P p) ↔
    P .kind ∧ P .container ∧ P .name ∧ P .access ∧ P .signature ∧ P .form := by
  constructor
  · exact fun h => ⟨h _, h _, h _, h _, h _, h _⟩
  · rintro ⟨h₁, h₂, h₃, h₄, h₅, h₆⟩ p
    cases p <;> assumption

theorem Part.gives_nil_iff {p : Part} {c : p.Content} : p.Gives [] c ↔ p.default? = some c := by
  simp [Gives]

theorem Part.gives_singleton_iff {p : Part} {c : p.Content} {v : Document} :
    p.Gives [v] c ↔ p.read v = .ok c := by
  simp [Gives, read_eq_ok_iff]

/-- Where something goes on with the next item, there is one or the array ends. -/
theorem of_nextItem_bind {α : Type} {closed : Bool}
    {f : Option (Document × List Document) → Decoded α} {a : α}
    (h : Document.nextItem items closed >>= f = .ok a) :
    (∃ v rest, items = v :: rest ∧ f (some (v, rest)) = .ok a) ∨
      items = [] ∧ closed = true ∧ f none = .ok a := by
  cases items with
  | nil =>
    cases closed with
    | true => exact .inr ⟨rfl, rfl, h⟩
    | false => cases h
  | cons v rest => exact .inl ⟨v, rest, rfl, h⟩

theorem gives_of_ofItems {closed : Bool}
    (h : ofItems .text (maxNesting - 1) items closed = .ok d) :
    closed = true ∧ items.length ≤ 6 ∧ ∀ p : Part, p.Gives items[p.place]?.toList (p.of d) := by
  have hone {p : Part} {v : Document} {c : p.Content} (h : p.read v = .ok c) : p.Gives [v] c :=
    Part.gives_singleton_iff.mpr h
  have hnone {p : Part} {c : p.Content} (h : p.default? = some c) : p.Gives [] c :=
    Part.gives_nil_iff.mpr h
  rw [Part.forall_iff]
  obtain ⟨a, items, rfl, h⟩ | ⟨-, -, ⟨⟩⟩ := of_nextItem_bind h
  obtain ⟨kind, hkind, h⟩ := Except.bind_eq_ok_iff.mp h
  obtain ⟨b, items, rfl, h⟩ | ⟨-, -, ⟨⟩⟩ := of_nextItem_bind h
  obtain ⟨container, hcontainer, h⟩ := Except.bind_eq_ok_iff.mp h
  obtain ⟨c, items, rfl, h⟩ | ⟨-, -, ⟨⟩⟩ := of_nextItem_bind h
  obtain ⟨name, hname, h⟩ := Except.bind_eq_ok_iff.mp h
  -- From here on the array may end.
  obtain ⟨e, items, rfl, h⟩ | ⟨rfl, rfl, h⟩ := of_nextItem_bind h
  case inr =>
    cases h
    exact ⟨rfl, by simp, hone hkind, hone hcontainer, hone hname, hnone rfl, hnone rfl, hnone rfl⟩
  obtain ⟨access, haccess, h⟩ := Except.bind_eq_ok_iff.mp h
  obtain ⟨f, items, rfl, h⟩ | ⟨rfl, rfl, h⟩ := of_nextItem_bind h
  case inr =>
    cases h
    exact ⟨rfl, by simp, hone hkind, hone hcontainer, hone hname, hone haccess, hnone rfl,
      hnone rfl⟩
  obtain ⟨signature, hsignature, h⟩ := Except.bind_eq_ok_iff.mp h
  obtain ⟨g, items, rfl, h⟩ | ⟨rfl, rfl, h⟩ := of_nextItem_bind h
  case inr =>
    cases h
    exact ⟨rfl, by simp, hone hkind, hone hcontainer, hone hname, hone haccess, hone hsignature,
      hnone rfl⟩
  obtain ⟨form, hform, h⟩ := Except.bind_eq_ok_iff.mp h
  obtain ⟨_, hend, h⟩ := Except.bind_eq_ok_iff.mp h
  cases h
  cases items with
  | nil =>
    cases Document.ensureClosed_eq_ok_iff.mp hend
    exact ⟨rfl, by simp, hone hkind, hone hcontainer, hone hname, hone haccess, hone hsignature,
      hone hform⟩
  | cons => cases hend

theorem ofItems_of_gives (hlength : items.length ≤ 6)
    (h : ∀ p : Part, p.Gives items[p.place]?.toList (p.of d)) :
    ofItems .text (maxNesting - 1) items true = .ok d := by
  have hone {p : Part} {v : Document} {c : p.Content} (h : p.Gives [v] c) : p.read v = .ok c :=
    Part.gives_singleton_iff.mp h
  have hnone {p : Part} {c : p.Content} (h : p.Gives [] c) : p.default? = some c :=
    Part.gives_nil_iff.mp h
  have hbind {α β : Type} {x : Decoded α} {f : α → Decoded β} {a : α} {b : β} (hx : x = .ok a)
      (hf : f a = .ok b) : x >>= f = .ok b := Except.bind_eq_ok_iff.mpr ⟨a, hx, hf⟩
  obtain ⟨kind, container, name, access, signature, form⟩ := d
  obtain ⟨hkind, hcontainer, hname, haccess, hsignature, hform⟩ := Part.forall_iff.mp h
  rcases items with _ | ⟨a, _ | ⟨b, _ | ⟨c, items⟩⟩⟩
  · cases hnone hkind
  · cases hnone hname
  · cases hnone hname
  refine hbind rfl (hbind (hone hkind) (hbind rfl (hbind (hone hcontainer) (hbind rfl
    (hbind (hone hname) ?_)))))
  rcases items with _ | ⟨e, items⟩
  · cases hnone haccess
    cases hnone hsignature
    cases hnone hform
    rfl
  refine hbind rfl (hbind (hone haccess) ?_)
  rcases items with _ | ⟨f, items⟩
  · cases hnone hsignature
    cases hnone hform
    rfl
  refine hbind rfl (hbind (hone hsignature) ?_)
  rcases items with _ | ⟨g, items⟩
  · cases hnone hform
    rfl
  refine hbind rfl (hbind (hone hform) ?_)
  cases items with
  | nil => rfl
  | cons => exact absurd hlength (by simp)

/-- An array is decoded as the declaration it denotes. -/
theorem decode_array_eq_ok_iff {closed : Bool} :
    decode .text (.array items closed) = .ok d ↔ Denotes (.array items closed) d := by
  constructor
  · intro h
    obtain ⟨rfl, hlength, h⟩ := gives_of_ofItems h
    exact .array hlength h
  · intro h
    cases h with
    | array hlength h => exact ofItems_of_gives hlength h

end Array

/-- A document without faults is decoded as the declaration it denotes, and only then. -/
theorem decode_eq_ok_iff {doc : Document} {d : Declaration} (h : doc.Faultless) :
    decode .text doc = .ok d ↔ Denotes doc d := by
  cases h with
  | array => exact decode_array_eq_ok_iff
  | object _ h => exact decode_object_eq_ok_iff fun e he => (h e he).ignore
  | _ =>
    refine iff_of_false ?_ ?_
    · intro h
      cases h
    · intro h
      cases h

end Declaration

end DeclRules

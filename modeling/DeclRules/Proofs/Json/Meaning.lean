import DeclRules.Proofs.FirstFault
import DeclRules.Proofs.Json.Decoding
import DeclRules.Proofs.Json.Grammar
import DeclRules.Proofs.Keyed

/-! # What documents mean

`Document.Means` says which value a document stands for: of members with one key the last counts,
and the members of a value stand in the order of their keys. Decoding gives a value if and only if
the document means it (`Document.toValue_eq_ok_iff`, `Document.toKeyed_eq_ok_iff`). What a text
without faults means can be read back, unless there is a float in it (`Document.Means.readable`). -/

namespace DeclRules

namespace Json

/-- There are no floats in the value. -/
inductive Value.FloatFree : Value → Prop
  | null : FloatFree null
  | bool (b : Bool) : FloatFree (bool b)
  | int (n : Int) : FloatFree (int n)
  | string (s : String) : FloatFree (string s)
  | array {items : List Value} (h : ∀ v ∈ items, FloatFree v) : FloatFree (array items)
  | object {members : List (String × Value)} (h : ∀ m ∈ members, FloatFree m.2) :
    FloatFree (object members)

namespace Document

/-- The value that a document stands for, with at most `room` arrays and objects inside each
other. -/
inductive Means : Nat → Document → Value → Prop
  | null {room : Nat} : Means room null .null
  | bool {room : Nat} (b : Bool) : Means room (bool b) (.bool b)
  | number {room : Nat} (n : Number) : Means room (number (some n)) (.number n)
  | string {room : Nat} (s : String) : Means room (string (some s)) (.string s)
  | array {room : Nat} {items : List (Document × Value)} (h : ∀ p ∈ items, Means room p.1 p.2) :
    Means (room + 1) (array (items.map (·.1)) true) (.array (items.map (·.2)))
  /-- All members have to mean something, also those that do not count. -/
  | object {room : Nat} {members : List (String × Document × Value)}
    {entries : List (String × Value)} (h : ∀ m ∈ members, Means room m.2.1 m.2.2)
    (ordered : Keyed.Ordered entries)
    (hlast : ∀ k v, (k, v) ∈ entries ↔ Keyed.Last k v (members.map fun m => (m.1, m.2.2))) :
    Means (room + 1) (object (members.map fun m => (string (some m.1), m.2.1)) true)
      (.object entries)

/-- No brackets are open, nothing is broken, and numbers are as literals give them. -/
inductive Faultless : Document → Prop
  | null : Faultless null
  | bool (b : Bool) : Faultless (bool b)
  | number {n : Option Number} (h : ∀ i, n = some (.int i) → Number.InRange i) :
    Faultless (number n)
  | string (o : Option String) : Faultless (string o)
  | array {items : List Document} (h : ∀ d ∈ items, Faultless d) : Faultless (array items true)
  | object {members : List (Document × Document)} (hkey : ∀ m ∈ members, ∃ o, m.1 = string o)
    (h : ∀ m ∈ members, Faultless m.2) : Faultless (object members true)

/-- The document is a name, or an object with nothing under it. -/
def Names (d : Document) (s : String) : Prop :=
  d = string (some s) ∨ d = object [(string (some s), null)] true

section Decode

variable {room : Nat}

theorem ensureClosed_eq_ok_iff {closed : Bool} {u : Unit} :
    ensureClosed closed = .ok u ↔ closed = true := by
  cases closed <;> simp [ensureClosed]

theorem toKey_eq_ok_iff {d : Document} {k : String} : toKey d = .ok k ↔ d = string (some k) := by
  unfold toKey
  split <;> simp_all

theorem toText_eq_ok_iff {expected s : String} {d : Document} :
    d.toText expected = .ok s ↔ d = string (some s) := by
  unfold toText
  split <;> simp_all

theorem foldFields_cons_eq_ok_iff {σ : Type} {field : String → Document → σ → Decoded (Option σ)}
    {d v : Document} {l : List (Document × Document)} {st st' : σ} :
    foldFields field ((d, v) :: l) st = .ok st' ↔ ∃ k, d = string (some k) ∧
      ((∃ st₁, field k v st = .ok (some st₁) ∧ foldFields field l st₁ = .ok st') ∨
        field k v st = .ok none ∧ ignore v = .ok () ∧ foldFields field l st = .ok st') := by
  constructor
  · intro h
    obtain ⟨k, hk, h⟩ := Except.bind_eq_ok_iff.mp h
    obtain ⟨o, ho, h⟩ := Except.bind_eq_ok_iff.mp h
    refine ⟨k, toKey_eq_ok_iff.mp hk, ?_⟩
    cases o with
    | some st₁ => exact .inl ⟨st₁, ho, h⟩
    | none =>
      obtain ⟨_, hignore, h⟩ := Except.bind_eq_ok_iff.mp h
      exact .inr ⟨ho, hignore, h⟩
  · rintro ⟨k, rfl, ⟨st₁, hfield, h⟩ | ⟨hfield, hignore, h⟩⟩
    · exact Except.bind_eq_ok_iff.mpr ⟨k, rfl, Except.bind_eq_ok_iff.mpr ⟨_, hfield, h⟩⟩
    · rw [foldFields_passed hfield hignore, h]

theorem toValues_eq_ok_iff {ds : List Document} {vs : List Value} : toValues room ds = .ok vs ↔
    ∃ items : List (Document × Value), ds = items.map (·.1) ∧ vs = items.map (·.2) ∧
      ∀ p ∈ items, toValue room p.1 = .ok p.2 := by
  constructor
  · intro h
    induction ds generalizing vs with
    | nil =>
      cases h
      exact ⟨[], rfl, rfl, by simp⟩
    | cons d ds ih =>
      obtain ⟨v, hv, h⟩ := Except.bind_eq_ok_iff.mp h
      obtain ⟨vs', hvs, h⟩ := Except.bind_eq_ok_iff.mp h
      cases h
      obtain ⟨items, rfl, rfl, hitems⟩ := ih hvs
      exact ⟨(d, v) :: items, rfl, rfl, List.forall_mem_cons.mpr ⟨hv, hitems⟩⟩
  · rintro ⟨items, rfl, rfl, h⟩
    induction items with
    | nil => rfl
    | cons p items ih =>
      obtain ⟨hp, hitems⟩ := List.forall_mem_cons.mp h
      exact Except.bind_eq_ok_iff.mpr ⟨p.2, hp, Except.bind_eq_ok_iff.mpr ⟨_, ih hitems, rfl⟩⟩

theorem toMembers_eq_ok_iff {ms : List (Document × Document)} {m m' : Keyed Value} :
    toMembers room ms m = .ok m' ↔ ∃ members : List (String × Document × Value),
      ms = members.map (fun p => (string (some p.1), p.2.1)) ∧
      (∀ p ∈ members, toValue room p.2.1 = .ok p.2.2) ∧
      m' = (members.map fun p => (p.1, p.2.2)).foldl (fun m e => m.insert e.1 e.2) m := by
  constructor
  · intro h
    induction ms generalizing m with
    | nil =>
      cases h
      exact ⟨[], rfl, by simp, rfl⟩
    | cons e ms ih =>
      obtain ⟨k, hk, h⟩ := Except.bind_eq_ok_iff.mp h
      obtain ⟨v, hv, h⟩ := Except.bind_eq_ok_iff.mp h
      obtain ⟨members, rfl, hmembers, rfl⟩ := ih h
      refine ⟨(k, e.2, v) :: members, ?_, List.forall_mem_cons.mpr ⟨hv, hmembers⟩, rfl⟩
      rw [List.map_cons, ← toKey_eq_ok_iff.mp hk]
  · rintro ⟨members, rfl, h, rfl⟩
    induction members generalizing m with
    | nil => rfl
    | cons p members ih =>
      obtain ⟨hp, hmembers⟩ := List.forall_mem_cons.mp h
      exact Except.bind_eq_ok_iff.mpr ⟨p.1, rfl, Except.bind_eq_ok_iff.mpr ⟨p.2.2, hp,
        ih hmembers⟩⟩

theorem toKeyed_succ_eq_ok_iff {d : Document} {m : Keyed Value}
    (h : ∀ d v, toValue room d = .ok v ↔ Means room d v) :
    toKeyed (room + 1) d = .ok m ↔ Means (room + 1) d (.object m.entries) := by
  constructor
  · intro hd
    cases d with
    | object members closed =>
      obtain ⟨m', hm, hd⟩ := Except.bind_eq_ok_iff.mp hd
      obtain ⟨_, hclosed, hd⟩ := Except.bind_eq_ok_iff.mp hd
      cases hd
      cases ensureClosed_eq_ok_iff.mp hclosed
      obtain ⟨members, rfl, hvalues, rfl⟩ := toMembers_eq_ok_iff.mp hm
      exact .object (fun p hp => (h _ _).mp (hvalues p hp)) (Keyed.ofList _).ordered
        fun k v => Keyed.mem_ofList_iff
    | _ => cases hd
  · intro hd
    cases hd with
    | @object _ members _ hvalues ordered hlast =>
      have hm : m = Keyed.ofList (members.map fun p => (p.1, p.2.2)) :=
        Keyed.eq_of_entries ((Keyed.ofList_eq_iff ordered).mpr hlast).symm
      have hmembers := toMembers_eq_ok_iff.mpr
        ⟨members, rfl, fun p hp => (h _ _).mpr (hvalues p hp), hm⟩
      rw [toKeyed, hmembers]
      rfl

theorem toValue_object (room : Nat) (members : List (Document × Document)) (closed : Bool) :
    toValue room (object members closed) =
      (toKeyed room (object members closed)).map fun m => .object m.entries := by
  cases room with
  | zero => rfl
  | succ room =>
    rw [toValue, toKeyed]
    cases toMembers room members .empty with
    | error e => rfl
    | ok m => cases closed <;> rfl

/-- Decoding gives what a document means. -/
theorem toValue_eq_ok_iff {d : Document} {v : Value} :
    toValue room d = .ok v ↔ Means room d v := by
  induction room generalizing d v with
  | zero =>
    constructor
    · intro h
      cases d with
      | null => cases h; exact .null
      | bool b => cases h; exact .bool b
      | number n => cases n <;> cases h; exact .number _
      | string s => cases s <;> cases h; exact .string _
      | _ => cases h
    · intro h
      cases h <;> rfl
  | succ room ih =>
    constructor
    · intro h
      cases d with
      | null => cases h; exact .null
      | bool b => cases h; exact .bool b
      | number n => cases n <;> cases h; exact .number _
      | string s => cases s <;> cases h; exact .string _
      | array items closed =>
        obtain ⟨vs, hvs, h⟩ := Except.bind_eq_ok_iff.mp h
        obtain ⟨_, hclosed, h⟩ := Except.bind_eq_ok_iff.mp h
        cases h
        cases ensureClosed_eq_ok_iff.mp hclosed
        obtain ⟨items, rfl, rfl, hitems⟩ := toValues_eq_ok_iff.mp hvs
        exact .array fun p hp => ih.mp (hitems p hp)
      | object members closed =>
        rw [toValue_object] at h
        obtain ⟨m, hm, rfl⟩ := Except.map_eq_ok_iff.mp h
        exact (toKeyed_succ_eq_ok_iff fun _ _ => ih).mp hm
      | broken => cases h
    · intro h
      cases h with
      | array hitems =>
        have hvs := toValues_eq_ok_iff.mpr ⟨_, rfl, rfl, fun p hp => ih.mpr (hitems p hp)⟩
        rw [toValue, hvs]
        rfl
      | @object _ members entries hvalues ordered hlast =>
        have hkeyed : toKeyed (room + 1) _ = .ok ⟨entries, ordered⟩ :=
          (toKeyed_succ_eq_ok_iff fun _ _ => ih).mpr (.object hvalues ordered hlast)
        rw [toValue_object, hkeyed]
        rfl
      | _ => rfl

theorem toKeyed_eq_ok_iff {d : Document} {m : Keyed Value} :
    toKeyed room d = .ok m ↔ Means room d (.object m.entries) := by
  cases room with
  | zero =>
    constructor
    · intro h
      cases d <;> cases h
    · intro h
      cases h
  | succ room => exact toKeyed_succ_eq_ok_iff fun _ _ => toValue_eq_ok_iff

end Decode

section Choice

variable {α : Type} {named : List (String × α)}

theorem lookup_map_bare (s : String) :
    (named.map fun p => (p.1, bare p.2)).lookup s = (named.lookup s).map bare := by
  induction named with
  | nil => rfl
  | cons p named ih =>
    rw [List.map_cons, List.lookup_cons, List.lookup_cons, ih]
    cases s == p.1 <;> rfl

theorem choice_eq_ok_iff {choices : List (String × (Option Document → Decoded α))} {s : String}
    {f : Option Document → Decoded α} :
    toChoice.choice choices s = .ok f ↔ choices.lookup s = some f := by
  unfold toChoice.choice
  cases choices.lookup s <;> simp

theorem bare_eq_ok_iff {a a' : α} {d : Document} :
    bare a (some d) = .ok a' ↔ d = null ∧ a = a' := by
  cases d <;> simp [bare, toUnit, bind, Except.bind, pure, Except.pure]

/-- One of some alternatives without content is chosen by its name. -/
theorem toChoice_bare_eq_ok_iff {text : α → String}
    (h : ∀ s a, named.lookup s = some a ↔ s = text a) {d : Document} {a : α} :
    toChoice .text (named.map fun p => (p.1, bare p.2)) d = .ok a ↔ d.Names (text a) := by
  have hchoice {s : String} {f : Option Document → Decoded α} :
      toChoice.choice (named.map fun p => (p.1, bare p.2)) s = .ok f ↔
        ∃ a, s = text a ∧ bare a = f := by
    simp only [choice_eq_ok_iff, lookup_map_bare, Option.map_eq_some_iff, h]
  constructor
  · intro hd
    cases d with
    | string o =>
      cases o with
      | none => cases hd
      | some s =>
        obtain ⟨f, hf, hd⟩ := Except.bind_eq_ok_iff.mp hd
        obtain ⟨a', rfl, rfl⟩ := hchoice.mp hf
        cases hd
        exact .inl rfl
    | object members closed =>
      cases members with
      | nil => cases hd
      | cons m others =>
        obtain ⟨s, hs, hd⟩ := Except.bind_eq_ok_iff.mp hd
        obtain ⟨f, hf, hd⟩ := Except.bind_eq_ok_iff.mp hd
        obtain ⟨a', ha', hd⟩ := Except.bind_eq_ok_iff.mp hd
        obtain ⟨a'', rfl, rfl⟩ := hchoice.mp hf
        obtain ⟨hnull, rfl⟩ := bare_eq_ok_iff.mp ha'
        cases others with
        | cons => cases hd
        | nil =>
          obtain ⟨_, hclosed, hd⟩ := Except.bind_eq_ok_iff.mp hd
          cases hd
          cases ensureClosed_eq_ok_iff.mp hclosed
          exact .inr (by rw [← toText_eq_ok_iff.mp hs, ← hnull])
    | _ => cases hd
  · rintro (rfl | rfl)
    · exact Except.bind_eq_ok_iff.mpr ⟨_, hchoice.mpr ⟨a, rfl, rfl⟩, rfl⟩
    · have hbare := hchoice.mpr ⟨a, rfl, rfl⟩
      exact Except.bind_eq_ok_iff.mpr ⟨_, rfl, Except.bind_eq_ok_iff.mpr ⟨_, hbare, rfl⟩⟩

end Choice

section Faultless

theorem faultless_of_written {s : List Char} {d : Document} (h : Written s d) : d.Faultless := by
  induction h with
  | null => exact .null
  | bool b => exact .bool b
  | number => exact .number fun i hi => Numeral.inRange_of_value hi
  | string => exact .string _
  | arrayBlank => exact .array (by simp)
  | array _ _ ih => exact .array (List.forall_mem_map.mpr ih)
  | objectBlank => exact .object (by simp) (by simp)
  | object _ hstring _ _ _ ih =>
    exact .object (List.forall_mem_map.mpr hstring) (List.forall_mem_map.mpr ih)

theorem ignoreMembers_eq {ms : List (Document × Document)}
    (hkey : ∀ m ∈ ms, ∃ o, m.1 = string o) (h : ∀ m ∈ ms, ignore m.2 = .ok ()) :
    ignoreMembers ms = .ok () := by
  induction ms with
  | nil => rfl
  | cons m ms ih =>
    obtain ⟨⟨o, ho⟩, hkeys⟩ := List.forall_mem_cons.mp hkey
    obtain ⟨hm, hms⟩ := List.forall_mem_cons.mp h
    obtain ⟨k, d⟩ := m
    cases ho
    rw [ignoreMembers, hm]
    exact ih hkeys hms

/-- Nobody who passes over a document finds a fault. -/
theorem Faultless.ignore {d : Document} (h : d.Faultless) : d.ignore = .ok () := by
  induction h with
  | array _ ih =>
    rw [Document.ignore, ignoreItems_eq ih]
    rfl
  | object hkey _ ih =>
    rw [Document.ignore, ignoreMembers_eq hkey ih]
    rfl
  | _ => rfl

/-- What is meant without floats can be read back. -/
theorem Means.readable {room : Nat} {d : Document} {v : Value} (h : Means room d v)
    (hd : d.Faultless) (hv : v.FloatFree) : Readable room v := by
  induction h with
  | null => exact .null
  | bool b => exact .bool b
  | number n =>
    cases hv with
    | int i =>
      cases hd with
      | number hd => exact .int (hd i rfl)
  | string s => exact .string s
  | array _ ih =>
    cases hd with
    | array hd =>
      cases hv with
      | array hv =>
        rw [List.forall_mem_map] at hd hv
        exact .array (List.forall_mem_map.mpr fun p hp => ih p hp (hd p hp) (hv p hp))
  | @object _ members entries _ ordered hlast ih =>
    cases hd with
    | object _ hd =>
      cases hv with
      | object hv =>
        rw [List.forall_mem_map] at hd
        refine .object ordered fun m hm => ?_
        obtain ⟨p, hp, heq⟩ := List.mem_map.mp ((hlast m.1 m.2).mp hm).mem
        obtain ⟨-, hvalue⟩ := Prod.mk.inj heq
        exact hvalue ▸ ih p hp (hd p hp) (hvalue ▸ hv m hm)

end Faultless

end Document

end Json

end DeclRules

import DeclRules.Declaration.Record
import DeclRules.Proofs.Json.Decoding

/-! # Declarations read back

An object that has the members of a printed declaration is read as that declaration, whatever other
members stand before and after them, as long as those are passed over (`decodeText_members`). -/

namespace DeclRules

open Json

theorem Kind.decode_text (source : Source) (k : Kind) :
    Kind.decode source (.string (some k.text)) = .ok k := by
  cases k <;> rfl

theorem Access.decode_text (source : Source) (a : Access) :
    Access.decode source (.string (some a.text)) = .ok a := by
  cases a <;> rfl

namespace Declaration

/-- The members that a declaration is read from. -/
def memberNames : List String := ["kind", "container", "name", "access", "signature", "form"]

variable {source : Source} {d : Declaration}

theorem member_of_notMem {key : String} (h : key ∉ memberNames) (room : Nat) (v : Document)
    (m : Members) : member source room key v m = .ok none := by
  simp only [memberNames, List.mem_cons, List.not_mem_nil, or_false, not_or] at h
  obtain ⟨h₁, h₂, h₃, h₄, h₅, h₆⟩ := h
  simp only [member]
  rfl

/-- A member of an object that a declaration is not read from. -/
def Idle (m : Document × Document) : Prop :=
  ∃ key, m.1 = .string (some key) ∧ key ∉ memberNames ∧ m.2.ignore = .ok ()

theorem foldFields_idle {l : List (Document × Document)} (h : ∀ m ∈ l, Idle m) (room : Nat)
    (l' : List (Document × Document)) (m : Members) :
    Document.foldFields (member source room) (l ++ l') m =
      Document.foldFields (member source room) l' m := by
  induction l with
  | nil => rfl
  | cons e l ih =>
    obtain ⟨k, v⟩ := e
    obtain ⟨key, rfl, hkey, hv⟩ := h _ List.mem_cons_self
    rw [List.cons_append, Document.foldFields_passed (member_of_notMem hkey room v m) hv]
    exact ih fun e he => h e (List.mem_cons_of_mem _ he)

theorem foldFields_of_idle {l : List (Document × Document)} (h : ∀ m ∈ l, Idle m) (room : Nat)
    (m : Members) : Document.foldFields (member source room) l m = .ok m := by
  rw [← List.append_nil l, foldFields_idle h]
  rfl

theorem foldFields_toJson {room : Nat} (hform : Readable room (.object d.form.entries))
    (l : List (Document × Document)) :
    Document.foldFields (member source room) (Document.ofMembers d.toJson ++ l) {} =
      Document.foldFields (member source room) l
        ⟨some d.kind, some d.container, some d.name, some d.access, some d.signature,
          some d.form⟩ := by
  have hkind := Kind.decode_text source d.kind
  have haccess := Access.decode_text source d.access
  have hkeyed := Document.toKeyed_ofValue hform
  rw [Document.ofValue] at hkeyed
  simp only [toJson, Document.ofMembers, Document.ofValue, List.cons_append, List.nil_append]
  simp [Document.foldFields, Document.toKey, member, once, hkind, haccess, hkeyed,
    Document.toText, bind, Except.bind, pure, Except.pure]

theorem decode_object (hform : Readable (maxNesting - 1) (.object d.form.entries))
    {before after : List (Document × Document)} (hbefore : ∀ m ∈ before, Idle m)
    (hafter : ∀ m ∈ after, Idle m) :
    decode source (.object (before ++ (Document.ofMembers d.toJson ++ after)) true) = .ok d := by
  rw [decode, foldFields_idle hbefore, foldFields_toJson hform, foldFields_of_idle hafter]
  rfl

/-- A member that is read as one that a declaration is not read from. -/
def Passed (m : String × Value) : Prop :=
  m.1 ∉ memberNames ∧ ∃ v, Reads m.2.print v ∧ v.ignore = .ok ()

theorem exists_readsMembers {members : List (String × Value)} (h : ∀ m ∈ members, Passed m) :
    ∃ docs, List.Forall₂ ReadsMember (Value.printMembers members) docs ∧ ∀ m ∈ docs, Idle m := by
  induction members with
  | nil => exact ⟨[], .nil, by simp⟩
  | cons m members ih =>
    obtain ⟨docs, hdocs, hidle⟩ := ih fun m hm => h m (List.mem_cons_of_mem _ hm)
    obtain ⟨hkey, v, hv, hignore⟩ := h m List.mem_cons_self
    refine ⟨(.string (some m.1), v) :: docs, ?_, ?_⟩
    · exact .cons ⟨m.1, m.2.print, rfl, rfl, hv⟩ hdocs
    · exact List.forall_mem_cons.mpr ⟨⟨m.1, rfl, hkey, hignore⟩, hidle⟩

theorem readsMembers_toJson {room : Nat} (hform : Readable room (.object d.form.entries)) :
    List.Forall₂ ReadsMember (Value.printMembers d.toJson) (Document.ofMembers d.toJson) := by
  rw [printMembers_eq, ofMembers_eq, List.forall₂_map_left_iff, List.forall₂_map_right_iff,
    List.forall₂_same]
  refine fun m hm => ⟨m.1, m.2.print, rfl, rfl, ?_⟩
  simp only [toJson, List.mem_cons, List.not_mem_nil, or_false] at hm
  rcases hm with rfl | rfl | rfl | rfl | rfl | rfl
  case inr.inr.inr.inr.inr => exact reads_print hform
  all_goals exact reads_string _

/-- The text of an object is read as the declaration among its members. -/
theorem decodeText_members (hform : Readable (maxNesting - 1) (.object d.form.entries))
    {before after : List (String × Value)} (hbefore : ∀ m ∈ before, Passed m)
    (hafter : ∀ m ∈ after, Passed m) :
    decodeText decode (Value.object (before ++ (d.toJson ++ after))).text = .ok d := by
  obtain ⟨docs, hdocs, hidle⟩ := exists_readsMembers hbefore
  obtain ⟨docs', hdocs', hidle'⟩ := exists_readsMembers hafter
  refine decodeText_of_reads ?_ (decode_object hform hidle hidle')
  rw [Value.text, String.toList_ofList, Value.print]
  refine reads_object ?_
  have happend (l l' : List (String × Value)) :
      Value.printMembers (l ++ l') = Value.printMembers l ++ Value.printMembers l' := by
    simp only [printMembers_eq, List.map_append]
  rw [happend, happend]
  exact List.rel_append hdocs (List.rel_append (readsMembers_toJson hform) hdocs')

theorem decodeText_text (hform : Readable (maxNesting - 1) (.object d.form.entries)) :
    decodeText decode d.text = .ok d := by
  have hnone : ∀ m ∈ ([] : List (String × Value)), Passed m := by simp
  have hmembers := decodeText_members hform hnone hnone
  rwa [List.nil_append, List.append_nil] at hmembers

end Declaration

end DeclRules

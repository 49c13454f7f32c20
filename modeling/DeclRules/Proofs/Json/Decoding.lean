import DeclRules.Json.Decode
import DeclRules.Proofs.Json.Reading

/-! # Values decoded

The document that stands for a value decodes to the value, as far as reading loses nothing
(`Document.toValue_ofValue`), so that the text of members with such values is parsed as the object
that has them (`parse_text_of_members`). -/

namespace DeclRules.Json.Document

theorem toMembers_ofMembers {room : Nat} {members : List (String × Value)}
    (h : ∀ m ∈ members, toValue room (ofValue m.2) = .ok m.2) (m : Keyed Value) :
    toMembers room (ofMembers members) m =
      .ok (members.foldl (fun m e => m.insert e.1 e.2) m) := by
  induction members generalizing m with
  | nil => rfl
  | cons e members ih =>
    rw [ofMembers, toMembers, h e List.mem_cons_self]
    exact ih (fun e he => h e (List.mem_cons_of_mem _ he)) _

theorem toValues_ofValues {room : Nat} {items : List Value}
    (h : ∀ v ∈ items, toValue room (ofValue v) = .ok v) :
    toValues room (ofValues items) = .ok items := by
  induction items with
  | nil => rfl
  | cons v items ih =>
    rw [ofValues, toValues, h v List.mem_cons_self,
      ih fun v hv => h v (List.mem_cons_of_mem _ hv)]
    rfl

theorem toValue_ofValue {room : Nat} {v : Value} (h : Readable room v) :
    toValue room (ofValue v) = .ok v := by
  induction h with
  | null | bool | int | string => rfl
  | array _ ih =>
    rw [ofValue, toValue, toValues_ofValues ih]
    rfl
  | object ordered _ ih =>
    rw [ofValue, toValue, toMembers_ofMembers ih, Keyed.foldl_insert .empty ordered]
    rfl

theorem toKeyed_ofValue {room : Nat} {m : Keyed Value} (h : Readable room (.object m.entries)) :
    toKeyed room (ofValue (.object m.entries)) = .ok m := by
  cases h with
  | object ordered h =>
    rw [ofValue, toKeyed, toMembers_ofMembers fun e he => toValue_ofValue (h e he),
      Keyed.foldl_insert .empty ordered]
    rfl

theorem ignoreItems_eq {l : List Document} (h : ∀ d ∈ l, ignore d = .ok ()) :
    ignoreItems l = .ok () := by
  induction l with
  | nil => rfl
  | cons d l ih =>
    rw [ignoreItems, h d List.mem_cons_self]
    exact ih fun d hd => h d (List.mem_cons_of_mem _ hd)

/-- A member of a record that nobody asked for is passed over. -/
theorem foldFields_passed {σ : Type} {field : String → Document → σ → Decoded (Option σ)}
    {key : String} {d : Document} {st : σ} (h : field key d st = .ok none)
    (hd : ignore d = .ok ()) (l : List (Document × Document)) :
    foldFields field ((.string (some key), d) :: l) st = foldFields field l st := by
  rw [foldFields, toKey]
  simp only [bind, Except.bind, h, hd]

end Document

theorem decodeText_of_reads {α : Type} {decoder : Source → Document → Decoded α} {s : String}
    {d : Document} {a : α} (hread : Reads s.toList d) (h : decoder .text d = .ok a) :
    decodeText decoder s = .ok a := by
  simp only [decodeText, read_of_reads hread, h, if_true]

/-- The text of members in any order is parsed as the object that has them, if reading changes none
of their values. -/
theorem parse_text_of_members {members : List (String × Value)}
    (h : ∀ m ∈ members, Readable (maxNesting - 1) m.2) :
    parse (Value.object members).text = .ok (.ofMembers members) := by
  refine decodeText_of_reads (d := .object (Document.ofMembers members) true) ?_ ?_
  · rw [Value.text, String.toList_ofList, Value.print]
    refine reads_object ?_
    rw [printMembers_eq, ofMembers_eq, List.forall₂_map_left_iff, List.forall₂_map_right_iff,
      List.forall₂_same]
    exact fun m hm => ⟨m.1, m.2.print, rfl, rfl, reads_print (h m hm)⟩
  · have hmembers := Document.toMembers_ofMembers
      (fun m hm => Document.toValue_ofValue (h m hm)) Keyed.empty
    simp only [maxNesting, Document.toValue] at hmembers ⊢
    rw [hmembers]
    rfl

end DeclRules.Json

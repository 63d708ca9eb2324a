import ClauseFilter.Predicate
import ClauseFilter.Proofs.RecordReading

/-!
# Predicates that have been saved

A predicate is read from the compact form of any object that holds its three fields once each
(`parse_saved`), and so from what is written for it. Nothing else that the object holds matters, and
neither does the order of the fields: after some of them have been read the record is the predicate
with only these fields set (`partly`).
-/

namespace ClauseFilter.Predicate

open Json.Reader

/-- A predicate with only the fields set that have been read. -/
def partly (p : Predicate) (seen : List String) : Predicate where
  expression := if "expression" ∈ seen then p.expression else ""
  translatable := if "translatable" ∈ seen then p.translatable else false
  notes := if "notes" ∈ seen then p.notes else []

/-- What is written for a predicate's fields. -/
def members (p : Predicate) : Json.Members :=
  [("expression", .str p.expression), ("translatable", .bool p.translatable),
    ("notes", .arr (p.notes.map .str))]

/-- A field is set from what is written for it. -/
theorem readsIn_field {l : Json.Layout} (p : Predicate) (seen : List String) {key : String}
    {value : Json} {field : Json.Reader.Field Predicate} (hmem : (key, value) ∈ p.members)
    (hfield : shape.field? key = some field) :
    ReadsIn l (field.read (p.partly seen)) value (p.partly (key :: seen)) := by
  simp only [members, List.mem_cons, List.not_mem_nil, or_false, Prod.mk.injEq] at hmem
  obtain ⟨rfl, rfl⟩ | ⟨rfl, rfl⟩ | ⟨rfl, rfl⟩ := hmem
  · obtain rfl := Option.some.inj hfield
    refine (readsIn_text "a string" p.expression).map_eq
      (fun s => { p.partly seen with expression := s }) ?_
    simp [partly]
  · obtain rfl := Option.some.inj hfield
    refine (readsIn_boolean p.translatable).map_eq
      (fun b => { p.partly seen with translatable := b }) ?_
    simp [partly]
  · obtain rfl := Option.some.inj hfield
    have hnotes :
        ReadsIn l (list (Json.Reader.text "a string")) (.arr (p.notes.map .str)) p.notes :=
      readsIn_list fun note _ => readsIn_text "a string" note
    refine hnotes.map_eq (fun notes => { p.partly seen with notes := notes }) ?_
    simp [partly]

theorem known_eq (members : Json.Members) :
    shape.known members =
      members.filter fun member => member.1 ∈ ["expression", "translatable", "notes"] := by
  refine List.filter_congr fun member _ => ?_
  rw [Bool.eq_iff_iff, decide_eq_true_iff]
  exact Shape.isSome_field?_iff

/-- An object is read as a predicate, in any layout, if it holds what is written for the fields. -/
theorem readsIn_obj {l : Json.Layout} {p : Predicate} {members : Json.Members}
    (h : (shape.known members).Perm p.members) :
    ReadsIn l (shape.read ⟨"", false, []⟩) (.obj members) p := by
  have hkeys : (shape.known members).keys.Perm ["expression", "translatable", "notes"] :=
    h.map Prod.fst
  have hpasses : Passes (shape.Takes l) (p.partly [], []) members _ :=
    Shape.passes_partly p.partly
      (fun key value hmem field hfield seen _ => readsIn_field p seen (h.mem_iff.1 hmem) hfield)
      (hkeys.nodup_iff.2 (by decide)) [] (List.disjoint_nil_right _)
  rw [List.append_nil] at hpasses
  have hseen : ∀ key ∈ ["expression", "translatable", "notes"],
      key ∈ (shape.known members).keys.reverse :=
    fun key hkey => List.mem_reverse.2 (hkeys.mem_iff.2 hkey)
  have hall : p.partly (shape.known members).keys.reverse = p := by
    simp only [List.forall_mem_cons] at hseen
    simp only [partly, hseen, if_true]
  rw [hall] at hpasses
  refine Shape.readsIn hpasses fun field hfield _ => hseen field.name ?_
  exact List.mem_map_of_mem hfield

/-- A predicate is read back from the text that is written for it, and from the text of every object
that holds its three fields once each, in any order and among any members of other names. -/
theorem parse_saved (p : Predicate) :
    parse p.toJson.compact = .ok p ∧
      ∀ members : Json.Members,
        (members.filter fun member =>
            member.1 ∈ ["expression", "translatable", "notes"]).Perm
          [("expression", .str p.expression), ("translatable", .bool p.translatable),
            ("notes", .arr (p.notes.map .str))] →
        parse (Json.obj members).compact = .ok p := by
  have hobject : ∀ members : Json.Members, (shape.known members).Perm p.members →
      parse (Json.obj members).compact = .ok p :=
    fun members h => run_compact (readsIn_obj h)
  constructor
  · exact hobject p.members (by rw [known_eq]; exact .refl _)
  · intro members h
    rw [← known_eq] at h
    exact hobject members h

/-- Fields in another order, among members that occur twice and hold fields themselves. -/
theorem parse_saved_among_unknown :
    parse (Json.obj [
        ("extra", .arr [.obj [("notes", .null), ("notes", .str "\\")], .num (.int (-1) (by decide))]),
        ("notes", .arr [.str "", .str "a \"b\"\n"]),
        ("extra", .null),
        ("translatable", .bool false),
        ("expression", .str "\u0000*")]).compact =
      .ok ⟨"\u0000*", false, ["", "a \"b\"\n"]⟩ :=
  (parse_saved ⟨"\u0000*", false, ["", "a \"b\"\n"]⟩).2 _
    (List.reverse_perm [("expression", _), ("translatable", _), ("notes", _)])

end ClauseFilter.Predicate

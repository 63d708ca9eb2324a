import ClauseFilter.Proofs.SoundReading
import Mathlib.Data.List.Nodup

/-!
# The members of a record

Which objects a record is read from can be told name by name, from the values of the members of each
name (`allOf`): no field may come twice (`nodup_known_iff`, `Fits.length_le`), and if none does, the
fields may come in any order, with other members between them (`readsIn_partly`).
-/

namespace ClauseFilter.Json

/-! ## Members of one name -/

namespace Members

variable {members : Members} {key : String} {value : Json}

/-- The values of the members of a name, in order. -/
def allOf (members : Members) (key : String) : List Json :=
  (members.filter fun member => member.1 == key).map Prod.snd

theorem mem_allOf_iff : value ∈ members.allOf key ↔ (key, value) ∈ members := by
  simp [allOf]

theorem length_allOf (members : Members) (key : String) :
    (members.allOf key).length = members.keys.count key := by
  rw [allOf, List.length_map, ← List.countP_eq_length_filter, keys, List.count_eq_countP,
    List.countP_map]
  rfl

theorem allOf_eq_nil_iff : members.allOf key = [] ↔ key ∉ members.keys := by
  rw [← List.length_eq_zero_iff, length_allOf, List.count_eq_zero]

end Members

/-! ## Fields of a record -/

namespace Reader.Shape

variable {σ : Type} {l : Layout} {shape : Shape σ} {members : Members}

theorem count_known {key : String} (h : (shape.field? key).isSome) :
    (shape.known members).keys.count key = (members.allOf key).length := by
  rw [Members.length_allOf, Members.keys, Members.keys, List.count_eq_countP, List.count_eq_countP,
    List.countP_map, List.countP_map, known, List.countP_filter]
  refine List.countP_congr fun member _ => ?_
  simp only [Function.comp, beq_iff_eq, Bool.and_eq_true]
  constructor
  · exact And.left
  · rintro rfl
    exact ⟨rfl, h⟩

theorem isSome_of_mem_known {key : String} (h : key ∈ (shape.known members).keys) :
    (shape.field? key).isSome := by
  obtain ⟨member, hmember, rfl⟩ := List.mem_map.1 h
  exact (List.mem_filter.1 hmember).2

theorem nodup_known_iff :
    (shape.known members).keys.Nodup ↔
      ∀ field ∈ shape.fields, (members.allOf field.name).length ≤ 1 := by
  rw [List.nodup_iff_count_le_one]
  constructor
  · intro h field hfield
    rw [← count_known (isSome_field?_iff.2 (List.mem_map_of_mem hfield))]
    exact h field.name
  · intro h key
    by_cases hkey : key ∈ (shape.known members).keys
    · have hsome := isSome_of_mem_known hkey
      obtain ⟨field, hfield, rfl⟩ := List.mem_map.1 (isSome_field?_iff.1 hsome)
      rw [count_known hsome]
      exact h field hfield
    · rw [List.count_eq_zero.2 hkey]
      exact Nat.zero_le 1

section Fits

variable {admits : String → Json → Prop} {name : String}

theorem Fits.length_le (h : shape.Fits admits members)
    (hname : name ∈ shape.fields.map Field.name) : (members.allOf name).length ≤ 1 := by
  obtain ⟨field, hfield, rfl⟩ := List.mem_map.1 hname
  exact nodup_known_iff.1 h.nodup field hfield

theorem Fits.admits_of_mem (h : shape.Fits admits members)
    (hname : name ∈ shape.fields.map Field.name) {value : Json} (hmem : (name, value) ∈ members) :
    admits name value :=
  h.admitted name value (List.mem_filter.2 ⟨hmem, isSome_field?_iff.2 hname⟩)

end Fits

/-- Given the record in which only some fields are set, an object that holds no field twice is read
as the record in which just its own fields are set. -/
theorem readsIn_partly (partly : List String → σ) {record : σ}
    (hset : ∀ key value, (key, value) ∈ members → ∀ field, shape.field? key = some field →
      ∀ seen, ReadsIn l (field.read (partly seen)) value (partly (key :: seen)))
    (honce : ∀ field ∈ shape.fields, (members.allOf field.name).length ≤ 1)
    (hrequired : ∀ field ∈ shape.fields, field.required = true → field.name ∈ members.keys)
    (hrecord : ∀ seen, (∀ field ∈ shape.fields, field.name ∈ members.keys → field.name ∈ seen) →
      partly seen = record) : ReadsIn l (shape.read (partly [])) (.obj members) record := by
  have hpasses : Passes (shape.Takes l) (partly [], []) members _ :=
    passes_partly partly
      (fun key value hmem field hfield seen _ =>
        hset key value (List.mem_filter.1 hmem).1 field hfield seen)
      (nodup_known_iff.2 honce) [] (List.disjoint_nil_right _)
  rw [List.append_nil] at hpasses
  have hseen : ∀ field ∈ shape.fields, field.name ∈ members.keys →
      field.name ∈ (shape.known members).keys.reverse := by
    intro field hfield hkey
    obtain ⟨member, hmember, hname⟩ := List.mem_map.1 hkey
    rw [List.mem_reverse, ← hname]
    refine List.mem_map_of_mem (List.mem_filter.2 ⟨hmember, ?_⟩)
    rw [hname]
    exact isSome_field?_iff.2 (List.mem_map_of_mem hfield)
  rw [hrecord _ hseen] at hpasses
  refine readsIn hpasses fun field hfield hneeded => ?_
  exact hseen field hfield (hrequired field hfield hneeded)

end Reader.Shape

end ClauseFilter.Json

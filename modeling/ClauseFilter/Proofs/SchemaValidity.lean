import ClauseFilter.Json.Basic
import ClauseFilter.Path
import ClauseFilter.Proofs.Rounding

/-!
# Values that are valid against a schema

A JSON schema is itself a JSON value. Which values are valid against it is said here for the
keywords that the schema of configurations uses, with the meaning that draft 7 of JSON Schema gives
to them (`Valid`): types, the least value of a number, the members of an object, and references to
other parts of the document. Other keywords are not given a meaning.
-/

namespace ClauseFilter.Json

/-! ## Types -/

/-- The exact value of a number. -/
def Number.toRat : Number → ℚ
  | .int n _ => n
  | .float x => x.toRat

/-- Whether a value is of a type that a schema names. An integer is any number without a fractional
part, however it is written. -/
def OfType : String → Json → Prop
  | "null", .null => True
  | "boolean", .bool _ => True
  | "number", .num _ => True
  | "integer", .num n => ∃ i : ℤ, n.toRat = i
  | "string", .str _ => True
  | "array", .arr _ => True
  | "object", .obj _ => True
  | _, _ => False

section Types

variable {value : Json}

@[simp] theorem ofType_null_iff : OfType "null" value ↔ value = .null := by
  cases value <;> simp [OfType]

@[simp] theorem ofType_integer_iff :
    OfType "integer" value ↔ ∃ n : Number, value = .num n ∧ ∃ i : ℤ, n.toRat = i := by
  cases value <;> simp [OfType]

@[simp] theorem ofType_string_iff : OfType "string" value ↔ ∃ s, value = .str s := by
  cases value <;> simp [OfType]

@[simp] theorem ofType_object_iff : OfType "object" value ↔ ∃ members, value = .obj members := by
  cases value <;> simp [OfType]

end Types

/-! ## References -/

/-- The part of a value under a key. -/
def member? (value : Json) (key : List Char) : Option Json :=
  match value with
  | .obj members => Members.get? members (String.ofList key)
  | _ => none

/-- The part of a document that a reference leads to: a number sign stands for the whole document,
and a key after each slash for the member of this name. -/
def target? (document : Json) (reference : String) : Option Json :=
  match Path.runs reference.toList with
  | ['#'] :: keys => keys.foldlM member? document
  | _ => none

/-! ## Schemas -/

/-- What a keyword of a schema is about. -/
inductive Keyword where
  | type
  | minimum
  | required
  | properties
  /-- A keyword that has no effect on which values are valid. A format has none unless it is one of
  those that the draft defines. -/
  | remark
  /-- A keyword that is not given a meaning here. -/
  | other

@[simp] def Keyword.ofName : String → Keyword
  | "type" => .type
  | "minimum" => .minimum
  | "required" => .required
  | "properties" => .properties
  | "$schema" | "title" | "description" | "definitions" | "format" => .remark
  | _ => .other

mutual

/-- Whether a value is valid against a schema that is part of a document. Beside a reference all
other keywords are ignored. -/
inductive Valid (document : Json) : Json → Json → Prop where
  | anything (value : Json) : Valid document (.bool true) value
  | reference {members : Members} {reference : String} {target value : Json}
      (href : ("$ref", .str reference) ∈ members)
      (htarget : document.target? reference = some target) (h : Valid document target value) :
      Valid document (.obj members) value
  | keywords {members : Members} {value : Json} (href : "$ref" ∉ members.keys)
      (h : ∀ member ∈ members, Satisfies document (.ofName member.1) member.2 value) :
      Valid document (.obj members) value

/-- Whether a value is as a keyword demands. What is demanded of numbers or objects says nothing
about values of other types. -/
inductive Satisfies (document : Json) : Keyword → Json → Json → Prop where
  | type {name : String} {value : Json} (h : OfType name value) :
      Satisfies document .type (.str name) value
  | types {names : List Json} {name : String} {value : Json} (hname : .str name ∈ names)
      (h : OfType name value) : Satisfies document .type (.arr names) value
  | minimum {bound : Number} {value : Json} (h : ∀ n, value = .num n → bound.toRat ≤ n.toRat) :
      Satisfies document .minimum (.num bound) value
  | required {names : List Json} {value : Json}
      (h : ∀ members : Members, value = .obj members →
        ∀ name, .str name ∈ names → name ∈ members.keys) :
      Satisfies document .required (.arr names) value
  | properties {properties : Members} {value : Json}
      (h : ∀ members : Members, value = .obj members → ∀ property ∈ properties, ∀ item,
        (property.1, item) ∈ members → Valid document property.2 item) :
      Satisfies document .properties (.obj properties) value
  | remark (text value : Json) : Satisfies document .remark text value

end

section Keywords

variable {document value : Json}

@[simp] theorem satisfies_type_iff {name : String} :
    Satisfies document .type (.str name) value ↔ OfType name value := by
  constructor
  · intro h
    cases h with
    | type h => exact h
  · exact .type

@[simp] theorem satisfies_types_iff {names : List Json} :
    Satisfies document .type (.arr names) value ↔
      ∃ name, .str name ∈ names ∧ OfType name value := by
  constructor
  · intro h
    cases h with
    | types hname h => exact ⟨_, hname, h⟩
  · rintro ⟨name, hname, h⟩
    exact .types hname h

@[simp] theorem satisfies_minimum_iff {bound : Number} :
    Satisfies document .minimum (.num bound) value ↔
      ∀ n, value = .num n → bound.toRat ≤ n.toRat := by
  constructor
  · intro h
    cases h with
    | minimum h => exact h
  · exact .minimum

@[simp] theorem satisfies_required_iff {names : List Json} :
    Satisfies document .required (.arr names) value ↔
      ∀ members : Members, value = .obj members →
        ∀ name, .str name ∈ names → name ∈ members.keys := by
  constructor
  · intro h
    cases h with
    | required h => exact h
  · exact .required

@[simp] theorem satisfies_properties_iff {properties : Members} :
    Satisfies document .properties (.obj properties) value ↔
      ∀ members : Members, value = .obj members → ∀ property ∈ properties, ∀ item,
        (property.1, item) ∈ members → Valid document property.2 item := by
  constructor
  · intro h
    cases h with
    | properties h => exact h
  · exact .properties

@[simp] theorem satisfies_remark (text : Json) : Satisfies document .remark text value :=
  .remark text value

/-- Without a reference every keyword has to be satisfied. -/
theorem valid_keywords_iff {members : Members} (href : "$ref" ∉ members.keys) :
    Valid document (.obj members) value ↔
      ∀ member ∈ members, Satisfies document (.ofName member.1) member.2 value := by
  constructor
  · intro h
    cases h with
    | reference hmem => exact absurd (List.mem_map_of_mem hmem) href
    | keywords _ h => exact h
  · exact .keywords href

/-- A reference means the schema that it leads to. -/
theorem valid_reference_iff {reference : String} {target : Json}
    (htarget : document.target? reference = some target) :
    Valid document (.obj [("$ref", .str reference)]) value ↔ Valid document target value := by
  constructor
  · intro h
    cases h with
    | reference hmem hfound h =>
      cases List.mem_singleton.1 hmem
      obtain rfl := Option.some.inj (htarget.symm.trans hfound)
      exact h
    | keywords href _ => exact absurd List.mem_cons_self href
  · exact .reference List.mem_cons_self htarget

end Keywords

end ClauseFilter.Json

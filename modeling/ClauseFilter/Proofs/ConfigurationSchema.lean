import ClauseFilter.Proofs.PrintedValues
import ClauseFilter.Proofs.SavedConfiguration
import ClauseFilter.Proofs.SchemaValidity

/-!
# Configurations and their schema

What the schema demands of a value (`Schema.valid_document_iff`), and that every configuration that
is saved is valid against the schema next to it (`valid_saved`). The schema describes a
configuration as it is read, so it also leaves room for members of other names and for settings that
are `null`.
-/

namespace ClauseFilter.Configuration

open Json

variable {value : Json}

namespace Schema

/-! ## Settings -/

/-- Whether a value is a whole number that is not negative. -/
def IsWhole (value : Json) : Prop :=
  ∃ n : Number, value = .num n ∧ ∃ i : ℕ, n.toRat = i

/-- Whether a value is a text. -/
def IsText (value : Json) : Prop :=
  ∃ s, value = .str s

theorem isWhole_iff :
    IsWhole value ↔ OfType "integer" value ∧ ∀ n, value = .num n → 0 ≤ n.toRat := by
  rw [ofType_integer_iff]
  constructor
  · rintro ⟨n, rfl, i, hi⟩
    refine ⟨⟨n, rfl, i, by exact_mod_cast hi⟩, ?_⟩
    rintro _ ⟨⟩
    rw [hi]
    exact Nat.cast_nonneg i
  · rintro ⟨⟨n, rfl, i, hi⟩, hnonneg⟩
    have hn := hnonneg n rfl
    rw [hi, Int.cast_nonneg_iff] at hn
    obtain ⟨k, rfl⟩ := Int.eq_ofNat_of_zero_le hn
    exact ⟨n, rfl, k, by exact_mod_cast hi⟩

@[simp] theorem satisfies_atLeastZero_iff :
    Satisfies document .minimum atLeastZero value ↔ ∀ n, value = .num n → 0 ≤ n.toRat := by
  have hzero : (Number.float (.zero false)).toRat = 0 := Binary64.toRat_eq_zero_iff.2 rfl
  rw [atLeastZero, satisfies_minimum_iff, hzero]

theorem valid_version_iff :
    Valid document (.obj [
      ("type", .str "integer"),
      ("format", .str "uint32"),
      ("minimum", atLeastZero)]) value ↔ IsWhole value := by
  rw [valid_keywords_iff (by decide), isWhole_iff]
  simp

theorem valid_depth_iff {text : String} :
    Valid document (.obj [
      described text,
      nullable "integer",
      ("format", .str "uint"),
      ("minimum", atLeastZero)]) value ↔ value = .null ∨ IsWhole value := by
  rw [valid_keywords_iff (by simp [described, nullable, Members.keys]), isWhole_iff]
  by_cases hnull : value = .null
  · simp [described, nullable, hnull]
  · simp [described, nullable, hnull]

theorem valid_text_iff :
    Valid document (.obj [nullable "string"]) value ↔ value = .null ∨ IsText value := by
  rw [valid_keywords_iff (by decide)]
  simp [nullable, IsText, or_comm]

theorem valid_describedText_iff {text : String} :
    Valid document (.obj [described text, nullable "string"]) value ↔
      value = .null ∨ IsText value := by
  rw [valid_keywords_iff (by simp [described, nullable, Members.keys])]
  simp [described, nullable, IsText, or_comm]

/-! ## Objects -/

theorem object_and_forall_iff {P : Members → Prop} :
    ((∃ members, value = .obj members) ∧ ∀ members, value = .obj members → P members) ↔
      ∃ members, value = .obj members ∧ P members := by
  constructor
  · rintro ⟨⟨members, rfl⟩, h⟩
    exact ⟨members, rfl, h members rfl⟩
  · rintro ⟨members, rfl, h⟩
    refine ⟨⟨members, rfl⟩, ?_⟩
    rintro _ ⟨⟩
    exact h

/-- What a schema of an object demands: the members that it requires, and that each property is
valid against its schema. -/
theorem valid_object_iff {text : String} {properties : Members} :
    Valid document (.obj [
      described text,
      ("type", .str "object"),
      ("properties", .obj properties)]) value ↔ ∃ members : Members, value = .obj members ∧
        ∀ property ∈ properties, ∀ item, (property.1, item) ∈ members →
          Valid document property.2 item := by
  rw [valid_keywords_iff (by simp [described, Members.keys]), ← object_and_forall_iff]
  simp [described]

/-- Against the schema of the limits on translations an object is valid if the depth, where it has
one, is a whole number or `null`. -/
theorem valid_translationSection_iff :
    Valid document translationSection value ↔ ∃ settings : Members, value = .obj settings ∧
      ∀ item, ("maxDepth", item) ∈ settings → item = .null ∨ IsWhole item := by
  rw [translationSection, valid_object_iff]
  simp [valid_depth_iff]

/-- Against the schema of the places of the query log an object is valid if each of its settings is
a text or `null`. -/
theorem valid_queryLogSection_iff :
    Valid document queryLogSection value ↔ ∃ settings : Members, value = .obj settings ∧
      ∀ name ∈ ["directory", "systemFile", "userFile", "userIndexPrefix"], ∀ item,
        (name, item) ∈ settings → item = .null ∨ IsText item := by
  rw [queryLogSection, valid_object_iff]
  simp [valid_describedText_iff, valid_text_iff]

/-- What the schema demands of a configuration: an object with a version, whose sections are valid
against the schemas that the document defines for them. -/
theorem valid_document_iff :
    Valid document document value ↔ ∃ members : Members, value = .obj members ∧
      "version" ∈ members.keys ∧
        (∀ item, ("version", item) ∈ members → IsWhole item) ∧
        (∀ item, ("translation", item) ∈ members → Valid document translationSection item) ∧
        ∀ item, ("queryLog", item) ∈ members → Valid document queryLogSection item := by
  have htranslation : ∀ item, Valid document (reference "TranslationSection") item ↔
      Valid document translationSection item := fun item => valid_reference_iff rfl
  have hqueryLog : ∀ item, Valid document (reference "QueryLogSection") item ↔
      Valid document queryLogSection item := fun item => valid_reference_iff rfl
  rw [← object_and_forall_iff]
  conv_lhs => arg 2; rw [document]
  rw [valid_keywords_iff (by decide)]
  simp [described, valid_version_iff, htranslation, hqueryLog, imp_and, forall_and]

end Schema

/-! ## Written configurations -/

section Settings

variable {name key : String}

theorem mem_settingMember_iff {setting : Option Json} :
    (key, value) ∈ settingMember name setting ↔ key = name ∧ setting = some value := by
  cases setting with
  | none => simp [settingMember]
  | some item => simp [settingMember, eq_comm]

theorem mem_sectionMember_iff {settings : Members} :
    (key, value) ∈ sectionMember name settings ↔
      key = name ∧ settings ≠ [] ∧ value = .obj settings := by
  cases settings with
  | nil => simp [sectionMember]
  | cons setting rest => simp [sectionMember]

theorem isWhole_jsonOfUInt64 (n : UInt64) : Schema.IsWhole (jsonOfUInt64 n) :=
  ⟨_, rfl, n.toNat, by simp [Number.toRat]⟩

theorem TranslationSection.eq_jsonOfUInt64_of_mem {s : TranslationSection}
    (h : (key, value) ∈ s.members) : ∃ n, value = jsonOfUInt64 n := by
  obtain ⟨-, hset⟩ := mem_settingMember_iff.1 h
  obtain ⟨n, -, rfl⟩ := Option.map_eq_some_iff.1 hset
  exact ⟨n, rfl⟩

theorem QueryLogSection.isText_of_mem {s : QueryLogSection} (h : (key, value) ∈ s.members) :
    Schema.IsText value := by
  simp only [members, List.mem_append, mem_settingMember_iff, Option.map_eq_some_iff] at h
  rcases h with ((⟨-, t, -, rfl⟩ | ⟨-, t, -, rfl⟩) | ⟨-, t, -, rfl⟩) | ⟨-, t, -, rfl⟩
  all_goals exact ⟨t, rfl⟩

end Settings

theorem TranslationSection.valid (s : TranslationSection) :
    Valid Schema.document Schema.translationSection (.obj s.members) := by
  refine Schema.valid_translationSection_iff.2 ⟨s.members, rfl, fun item hitem => ?_⟩
  obtain ⟨n, rfl⟩ := eq_jsonOfUInt64_of_mem hitem
  exact .inr (isWhole_jsonOfUInt64 n)

theorem QueryLogSection.valid (s : QueryLogSection) :
    Valid Schema.document Schema.queryLogSection (.obj s.members) :=
  Schema.valid_queryLogSection_iff.2
    ⟨s.members, rfl, fun _ _ _ hitem => .inr (isText_of_mem hitem)⟩

/-- Which members a configuration is written with. -/
theorem mem_toJson_cases {c : Configuration} {members : Members} (h : c.toJson = .obj members)
    {key : String} (hmem : (key, value) ∈ members) :
    key = "version" ∧ value = jsonOfUInt64 c.version.toUInt64 ∨
      key = "translation" ∧ value = .obj c.translation.members ∨
        key = "queryLog" ∧ value = .obj c.queryLog.members := by
  cases h
  simp only [List.mem_cons, List.mem_append, mem_sectionMember_iff, Prod.mk.injEq] at hmem
  rcases hmem with hversion | ⟨rfl, -, rfl⟩ | ⟨rfl, -, rfl⟩
  · exact .inl hversion
  · exact .inr (.inl ⟨rfl, rfl⟩)
  · exact .inr (.inr ⟨rfl, rfl⟩)

theorem valid_toJson (c : Configuration) : Valid Schema.document Schema.document c.toJson := by
  refine Schema.valid_document_iff.2 ⟨_, rfl, List.mem_cons_self, ?_, ?_, ?_⟩
  · intro item hitem
    obtain ⟨-, rfl⟩ | ⟨hkey, -⟩ | ⟨hkey, -⟩ := mem_toJson_cases (c := c) rfl hitem
    · exact isWhole_jsonOfUInt64 _
    · contradiction
    · contradiction
  · intro item hitem
    obtain ⟨hkey, -⟩ | ⟨-, rfl⟩ | ⟨hkey, -⟩ := mem_toJson_cases (c := c) rfl hitem
    · contradiction
    · exact c.translation.valid
    · contradiction
  · intro item hitem
    obtain ⟨hkey, -⟩ | ⟨hkey, -⟩ | ⟨-, rfl⟩ := mem_toJson_cases (c := c) rfl hitem
    · contradiction
    · contradiction
    · exact c.queryLog.valid

/-! ## Their texts -/

theorem regular_jsonOfUInt64 (n : UInt64) : Regular (jsonOfUInt64 n) :=
  .num (readsBack_int _)

theorem TranslationSection.regular (s : TranslationSection) : Regular (.obj s.members) := by
  refine .obj s.nodup_keys fun member hmember => ?_
  obtain ⟨n, heq⟩ := eq_jsonOfUInt64_of_mem hmember
  rw [heq]
  exact regular_jsonOfUInt64 n

theorem QueryLogSection.regular (s : QueryLogSection) : Regular (.obj s.members) := by
  refine .obj s.nodup_keys fun member hmember => ?_
  obtain ⟨t, heq⟩ := isText_of_mem hmember
  rw [heq]
  exact .str t

theorem regular_toJson (c : Configuration) : Regular c.toJson := by
  refine .obj (nodup_keys_toJson (c := c) rfl) fun member hmember => ?_
  obtain ⟨-, heq⟩ | ⟨-, heq⟩ | ⟨-, heq⟩ := mem_toJson_cases (c := c) rfl hmember
  · rw [heq]
    exact regular_jsonOfUInt64 _
  · rw [heq]
    exact c.translation.regular
  · rw [heq]
    exact c.queryLog.regular

theorem Schema.regular_document : Regular document := by
  have hzero : Regular atLeastZero := .num readsBack_zero
  simp [document, translationSection, queryLogSection, described, nullable, reference, Members.keys,
    hzero]

variable {store : FileStore} {directory : String}

theorem readText_save_schema {c : Configuration} (h : (c.save store directory).1 = .ok ()) :
    (c.save store directory).2.readText (Path.join directory schemaFileName) = .ok Schema.text := by
  obtain ⟨made, written, -, hschema⟩ := write_of_save h
  exact FileStore.readText_of_read (FileStore.read_write hschema)

/-- When a configuration has been saved, its file and the schema next to it hold the texts of two
values, the one of which is valid against the other. -/
theorem valid_saved (c : Configuration) (store : FileStore) (directory : String)
    (hsaved : (c.save store directory).1 = .ok ()) :
    ∃ (text schemaText : String) (value schema : Json),
      (c.save store directory).2.readText (Path.join directory fileName) = .ok text ∧
        (c.save store directory).2.readText (Path.join directory schemaFileName) = .ok schemaText ∧
        Json.parse text = .ok value ∧ Json.parse schemaText = .ok schema ∧
        Valid schema schema value := by
  refine ⟨c.text, Schema.text, c.toJson, Schema.document, ?_, ?_, ?_, ?_, c.valid_toJson⟩
  · exact readText_save hsaved
  · exact readText_save_schema hsaved
  · exact c.regular_toJson.parse_written c.toJson.written_pretty_line
  · exact Schema.regular_document.parse_written Schema.document.written_pretty_line

/-- A configuration of a version to come, with no limit on translations and one empty name. -/
def laterVersion : Configuration where
  version := 7
  translation := .unset
  queryLog := ⟨some "/var/log", some "", none, none⟩

theorem valid_saved_laterVersion :
    (laterVersion.save (.empty []) "conf/next").1 = .ok () ∧
      ∃ (text schemaText : String) (value schema : Json),
        (laterVersion.save (.empty []) "conf/next").2.readText "conf/next/configuration.json" =
            .ok text ∧
          (laterVersion.save (.empty []) "conf/next").2.readText "conf/next/schema.json" =
            .ok schemaText ∧
          Json.parse text = .ok value ∧ Json.parse schemaText = .ok schema ∧
          Valid schema schema value := by
  have hsaved : (laterVersion.save (.empty []) "conf/next").1 = .ok () := by decide +kernel
  exact ⟨hsaved, valid_saved laterVersion (.empty []) "conf/next" hsaved⟩

end ClauseFilter.Configuration

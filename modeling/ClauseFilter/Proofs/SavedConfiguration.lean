import ClauseFilter.Configuration.Files
import ClauseFilter.Proofs.RecordReading
import ClauseFilter.Proofs.StoredFiles

/-!
# Configurations that have been saved

Loading gives back what has been saved (`load_save`). Each setting is read from the member that is
written for it and stays unset without one, so the text of a configuration is read as this
configuration (`parse_text`); saving the schema leaves the configuration's file as it is.
-/

namespace ClauseFilter.Configuration

open Json.Reader

variable {l : Json.Layout}

/-! ## Settings -/

section Settings

variable {σ : Type} {shape : Shape σ} {field : Json.Reader.Field σ} {name : String}
  {record record' : σ}

theorem sectionMember_eq (name : String) (settings : Json.Members) :
    sectionMember name settings =
      settingMember name (if settings = [] then none else some (.obj settings)) := by
  cases settings with
  | nil => rfl
  | cons setting rest => rfl

theorem keys_settingMember_sublist (name : String) (setting : Option Json) :
    (settingMember name setting).keys.Sublist [name] := by
  cases setting with
  | none => exact List.nil_sublist _
  | some value => exact List.Sublist.refl _

theorem mem_keys_sectionMember_iff {key : String} {settings : Json.Members} :
    key ∈ (sectionMember name settings).keys ↔ key = name ∧ settings ≠ [] := by
  cases settings with
  | nil => simp [sectionMember, Json.Members.keys]
  | cons setting rest => simp [sectionMember, Json.Members.keys]

theorem keys_sectionMember_sublist (name : String) (settings : Json.Members) :
    (sectionMember name settings).keys.Sublist [name] := by
  rw [sectionMember_eq]
  exact keys_settingMember_sublist name _

/-- A setting is read from its member, and one that is not set keeps its value. -/
theorem fills_settingMember
    (hfield : shape.field? name = some field)
    {setting : Option Json}
    (hset : ∀ value, setting = some value → ReadsIn l (field.read record) value record')
    (hunset : setting = none → record = record') :
    shape.Fills l record (settingMember name setting) record' := by
  cases setting with
  | none =>
    rw [hunset rfl]
    exact .nil _
  | some value => exact .cons hfield (hset value rfl) (.nil _)

/-- A setting that is a text or not set. -/
theorem fills_text {expected : String} (set : Option String → σ)
    (hfield : shape.field? name = some field)
    (hread : field.read record = do return set (← optional (Json.Reader.text expected)))
    (hunset : set none = record) (setting : Option String) :
    shape.Fills l record (settingMember name (setting.map .str)) (set setting) := by
  refine fills_settingMember hfield ?_ ?_
  · intro value hvalue
    obtain ⟨s, rfl, rfl⟩ := Option.map_eq_some_iff.1 hvalue
    rw [hread]
    exact ((readsIn_text expected s).optional nofun).map set
  · intro hnone
    rw [Option.map_eq_none_iff.1 hnone, hunset]

/-- A section is read from its member, and one in which nothing is set keeps its value. -/
theorem fills_sectionMember {α : Type} {reader : Json.Reader α} {a : α} {settings : Json.Members}
    (set : α → σ) (hfield : shape.field? name = some field)
    (hread : field.read record = do return set (← reader))
    (hsection : ReadsIn l reader (.obj settings) a) (hunset : settings = [] → record = set a) :
    shape.Fills l record (sectionMember name settings) (set a) := by
  rw [sectionMember_eq]
  refine fills_settingMember hfield ?_ ?_
  · intro value hvalue
    split at hvalue
    · contradiction
    · obtain rfl := Option.some.inj hvalue
      rw [hread]
      exact hsection.map set
  · intro hnone
    split at hnone
    · next hempty => exact hunset hempty
    · contradiction

end Settings

theorem settingMember_eq_nil_iff {name : String} {setting : Option Json} :
    settingMember name setting = [] ↔ setting = none := by
  cases setting with
  | none => simp [settingMember]
  | some value => simp [settingMember]

theorem TranslationSection.members_eq_nil_iff {s : TranslationSection} :
    s.members = [] ↔ s = .unset := by
  obtain ⟨maxDepth⟩ := s
  simp [members, unset, settingMember_eq_nil_iff]

theorem QueryLogSection.members_eq_nil_iff {s : QueryLogSection} : s.members = [] ↔ s = .unset := by
  obtain ⟨directory, systemFile, userFile, userIndexPrefix⟩ := s
  simp [members, unset, settingMember_eq_nil_iff]

theorem readsIn_jsonOfUInt64 (l : Json.Layout) {n : UInt64} {bound : Nat} (expected : String)
    (hn : n.toNat < bound) : ReadsIn l (natural bound expected) (jsonOfUInt64 n) n.toNat :=
  readsIn_natural expected hn _

theorem readsIn_version (l : Json.Layout) (version : UInt32) :
    ReadsIn l (natural UInt32.size "u32") (jsonOfUInt64 version.toUInt64) version.toNat := by
  have hsize : version.toUInt64.toNat < UInt32.size := by
    rw [UInt32.toNat_toUInt64]
    exact version.toNat_lt
  have hread := readsIn_jsonOfUInt64 l "u32" hsize
  rwa [UInt32.toNat_toUInt64] at hread

theorem TranslationSection.nodup_keys (s : TranslationSection) : s.members.keys.Nodup :=
  (keys_settingMember_sublist _ _).nodup (by simp)

theorem QueryLogSection.nodup_keys (s : QueryLogSection) : s.members.keys.Nodup := by
  have hkeys := (((keys_settingMember_sublist "directory" (s.directory.map .str)).append
    (keys_settingMember_sublist "systemFile" (s.systemFile.map .str))).append
    (keys_settingMember_sublist "userFile" (s.userFile.map .str))).append
    (keys_settingMember_sublist "userIndexPrefix" (s.userIndexPrefix.map .str))
  simp only [← Json.Members.keys_append] at hkeys
  exact hkeys.nodup (by decide)

theorem TranslationSection.readsIn (s : TranslationSection) :
    ReadsIn l (TranslationSection.shape.read .unset) (.obj s.members) s := by
  have hkeys := s.nodup_keys
  obtain ⟨maxDepth⟩ := s
  refine Shape.readsIn_of_fills (fills_settingMember rfl ?_ ?_) hkeys ?_
  · intro value hvalue
    obtain ⟨n, rfl, rfl⟩ := Option.map_eq_some_iff.1 hvalue
    have hdepth := (readsIn_jsonOfUInt64 l "usize" n.toNat_lt).optional nofun
    have hset := hdepth.map fun depth => TranslationSection.mk (depth.map UInt64.ofNat)
    rwa [Option.map_some, UInt64.ofNat_toNat] at hset
  · intro hnone
    obtain rfl := Option.map_eq_none_iff.1 hnone
    rfl
  · intro field hfield
    obtain rfl := List.mem_singleton.1 hfield
    nofun

theorem QueryLogSection.readsIn (s : QueryLogSection) :
    ReadsIn l (QueryLogSection.shape.read .unset) (.obj s.members) s := by
  have hkeys := s.nodup_keys
  obtain ⟨directory, systemFile, userFile, userIndexPrefix⟩ := s
  have hdirectory : QueryLogSection.shape.Fills l .unset
      (settingMember "directory" (directory.map .str)) ⟨directory, none, none, none⟩ :=
    fills_text (QueryLogSection.mk · none none none) rfl rfl rfl directory
  have hsystemFile : QueryLogSection.shape.Fills l ⟨directory, none, none, none⟩
      (settingMember "systemFile" (systemFile.map .str)) ⟨directory, systemFile, none, none⟩ :=
    fills_text (QueryLogSection.mk directory · none none) rfl rfl rfl systemFile
  have huserFile : QueryLogSection.shape.Fills l ⟨directory, systemFile, none, none⟩
      (settingMember "userFile" (userFile.map .str)) ⟨directory, systemFile, userFile, none⟩ :=
    fills_text (QueryLogSection.mk directory systemFile · none) rfl rfl rfl userFile
  have huserIndexPrefix : QueryLogSection.shape.Fills l ⟨directory, systemFile, userFile, none⟩
      (settingMember "userIndexPrefix" (userIndexPrefix.map .str))
      ⟨directory, systemFile, userFile, userIndexPrefix⟩ :=
    fills_text (QueryLogSection.mk directory systemFile userFile ·) rfl rfl rfl userIndexPrefix
  have hfills := ((hdirectory.append hsystemFile).append huserFile).append huserIndexPrefix
  refine Shape.readsIn_of_fills hfills hkeys ?_
  intro field hfield
  have hoptional : ∀ field ∈ QueryLogSection.shape.fields, field.required = false := by
    simp [QueryLogSection.shape]
  simp [hoptional field hfield]

/-! ## Whole configurations -/

/-- Only the version has to be there. -/
theorem name_of_required : ∀ field ∈ shape.fields, field.required = true →
    field.name = "version" := by
  simp [shape]

theorem nodup_keys_toJson {c : Configuration} {members : Json.Members}
    (h : c.toJson = .obj members) : members.keys.Nodup := by
  cases h
  have hkeys := (List.Sublist.refl ["version"]).append
    ((keys_sectionMember_sublist "translation" c.translation.members).append
      (keys_sectionMember_sublist "queryLog" c.queryLog.members))
  simp only [← Json.Members.keys_append] at hkeys
  exact hkeys.nodup (by decide)

theorem readsIn_toJson (c : Configuration) : ReadsIn l (shape.read empty) c.toJson c := by
  have hkeys := nodup_keys_toJson (c := c) rfl
  obtain ⟨version, translation, queryLog⟩ := c
  have hversion : ReadsIn l (do
      return Configuration.mk (UInt32.ofNat (← natural UInt32.size "u32")) .unset .unset)
      (jsonOfUInt64 version.toUInt64) ⟨version, .unset, .unset⟩ := by
    have hset := (readsIn_version l version).map
      fun n => Configuration.mk (UInt32.ofNat n) .unset .unset
    rwa [UInt32.ofNat_toNat] at hset
  have htranslation : shape.Fills l ⟨version, .unset, .unset⟩
      (sectionMember "translation" translation.members) ⟨version, translation, .unset⟩ :=
    fills_sectionMember (Configuration.mk version · .unset) rfl rfl translation.readsIn
      fun h => by rw [TranslationSection.members_eq_nil_iff.1 h]
  have hqueryLog : shape.Fills l ⟨version, translation, .unset⟩
      (sectionMember "queryLog" queryLog.members) ⟨version, translation, queryLog⟩ :=
    fills_sectionMember (Configuration.mk version translation ·) rfl rfl queryLog.readsIn
      fun h => by rw [QueryLogSection.members_eq_nil_iff.1 h]
  refine Shape.readsIn_of_fills (.cons rfl hversion (htranslation.append hqueryLog)) hkeys ?_
  intro field hfield hrequired
  rw [name_of_required field hfield hrequired]
  exact List.mem_cons_self

/-- The text of a configuration is read as this configuration. -/
theorem parse_text (c : Configuration) : parse c.text = .ok c :=
  run_pretty c.readsIn_toJson

/-! ## Configurations in a directory -/

variable {c : Configuration} {store : FileStore} {directory : String}

/-- A configuration that is saved has been written, and the schema after it. -/
theorem write_of_save (h : (c.save store directory).1 = .ok ()) :
    ∃ made written,
      FileStore.write made (Path.join directory fileName) c.text.toUTF8 = .ok written ∧
        written.write (Path.join directory schemaFileName) Schema.text.toUTF8 =
          .ok (c.save store directory).2 := by
  unfold save at h ⊢
  generalize store.makeDirectories directory = outcome at h ⊢
  obtain ⟨outcome, made⟩ := outcome
  cases outcome with
  | error refusal => contradiction
  | ok _ =>
    dsimp only at h ⊢
    cases hwritten : made.write (Path.join directory fileName) c.text.toUTF8 with
    | error refusal =>
      rw [hwritten] at h
      contradiction
    | ok written =>
      rw [hwritten] at h
      dsimp only at h ⊢
      cases hschema : written.write (Path.join directory schemaFileName) Schema.text.toUTF8 with
      | error refusal =>
        rw [hschema] at h
        contradiction
      | ok final => exact ⟨made, written, hwritten, hschema⟩

theorem readText_save (h : (c.save store directory).1 = .ok ()) :
    (c.save store directory).2.readText (Path.join directory fileName) = .ok c.text := by
  obtain ⟨made, written, hwritten, hschema⟩ := write_of_save h
  have hnames : (Path.route (Path.join directory fileName)).names.getLast? ≠
      (Path.route (Path.join directory schemaFileName)).names.getLast? := by
    rw [Path.getLast?_names_join directory (by decide) (by decide),
      Path.getLast?_names_join directory (by decide) (by decide)]
    decide
  exact FileStore.readText_of_read
    (FileStore.read_write_ne hnames (FileStore.read_write hwritten) hschema)

/-- What has been saved is loaded again: the configuration itself if it is of the current version,
and its version as an unsupported one otherwise. A section is in the file just when anything is set
in it. -/
theorem load_save (c : Configuration) (store : FileStore) (directory : String)
    (hsaved : (c.save store directory).1 = .ok ()) :
    load (c.save store directory).2 directory =
        (if c.version = currentVersion then .ok c
        else .error (.unsupportedVersion (Path.join directory fileName) c.version)) ∧
      ∃ members : Json.Members,
        (c.save store directory).2.readText (Path.join directory fileName) =
            .ok ((Json.obj members).pretty ++ "\n") ∧
          (members.has "translation" = true ↔ c.translation ≠ .unset) ∧
            (members.has "queryLog" = true ↔ c.queryLog ≠ .unset) := by
  have htext := readText_save hsaved
  constructor
  · unfold load
    dsimp only
    rw [htext]
    dsimp only
    rw [c.parse_text]
  · refine ⟨_, htext, ?_, ?_⟩
    · rw [Json.Members.has_eq, decide_eq_true_iff]
      simp [mem_keys_sectionMember_iff, TranslationSection.members_eq_nil_iff]
    · rw [Json.Members.has_eq, decide_eq_true_iff]
      simp [mem_keys_sectionMember_iff, QueryLogSection.members_eq_nil_iff]

/-- A configuration with a file name that has to be escaped and an empty one. -/
def escapedNames : Configuration where
  version := currentVersion
  translation := ⟨some 0xFFFFFFFFFFFFFFFF⟩
  queryLog := ⟨none, some "a \"b\" \\ \x01\x7f\n.txt", some "", none⟩

theorem load_save_escapedNames :
    (escapedNames.save (.empty []) "conf").1 = .ok () ∧
      load (escapedNames.save (.empty []) "conf").2 "conf" = .ok escapedNames := by
  have hsaved : (escapedNames.save (.empty []) "conf").1 = .ok () := by decide +kernel
  have hloaded := (load_save escapedNames (.empty []) "conf" hsaved).1
  exact ⟨hsaved, hloaded.trans (if_pos rfl)⟩

end ClauseFilter.Configuration

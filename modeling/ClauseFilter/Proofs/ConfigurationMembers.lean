import ClauseFilter.Proofs.RecordMembers
import ClauseFilter.Proofs.SavedConfiguration

/-!
# The members of a configuration

What a configuration is read from depends on its own members only. Any object that holds each of
them once is read as this configuration (`HeldBy`): the order is free at both levels, a setting that
is not set may be left out or be `null`, a section in which nothing is set may be left out, and
there may be any other members. An object is not read when the version is missing, when one of the
known members comes twice or when a section is `null` (`Flawed`, `load_written`).
-/

namespace ClauseFilter.Configuration

open Json.Reader

variable {l : Json.Layout} {members : Json.Members}

/-! ## Settings -/

/-- Whether members hold a setting: its value once if it is set, and otherwise nothing or one
`null`. -/
def Holds (members : Json.Members) (name : String) : Option Json → Prop
  | some value => members.allOf name = [value]
  | none => members.allOf name = [] ∨ members.allOf name = [.null]

section Settings

variable {α β : Type} {name : String} {setting : Option α} {write : α → Json} {value : Json}

theorem Holds.length_le (h : Holds members name (setting.map write)) :
    (members.allOf name).length ≤ 1 := by
  cases setting with
  | some a =>
    rw [h]
    exact Nat.le_refl 1
  | none =>
    rcases h with h | h
    · rw [h]
      exact Nat.zero_le 1
    · rw [h]
      exact Nat.le_refl 1

/-- A value under the name of a setting is the one that is written for it, or `null`. -/
theorem Holds.cases (h : Holds members name (setting.map write)) (hmem : (name, value) ∈ members) :
    (∃ a, setting = some a ∧ value = write a) ∨ setting = none ∧ value = .null := by
  have hvalue := Json.Members.mem_allOf_iff.2 hmem
  cases setting with
  | some a =>
    rw [h] at hvalue
    exact .inl ⟨a, rfl, List.mem_singleton.1 hvalue⟩
  | none =>
    rcases h with h | h
    · rw [h] at hvalue
      contradiction
    · rw [h] at hvalue
      exact .inr ⟨rfl, List.mem_singleton.1 hvalue⟩

/-- A setting whose name is not among the members is not set. -/
theorem Holds.ite_eq (h : Holds members name (setting.map write)) {seen : List String}
    (hseen : name ∈ members.keys → name ∈ seen) :
    (if name ∈ seen then setting else none) = setting := by
  by_cases hname : name ∈ seen
  · rw [if_pos hname]
  · rw [if_neg hname]
    cases setting with
    | none => rfl
    | some a =>
      have hmem : write a ∈ members.allOf name := by
        rw [h]
        exact List.mem_singleton_self _
      exact absurd (hseen (List.mem_map_of_mem (Json.Members.mem_allOf_iff.1 hmem))) hname

theorem readsIn_null {reader : Json.Reader α} : ReadsIn l (optional reader) .null none := by
  intro level
  exact reads_of_next (c := 'n') rfl fun rest _ => bind_apply (word_append "null".toList rest)

/-- A setting is read from what stands under its name. -/
theorem Holds.readsIn (h : Holds members name (setting.map write)) (hmem : (name, value) ∈ members)
    {reader : Json.Reader β} {f : α → β} (hread : ∀ a, ReadsIn l reader (write a) (f a))
    (hwrite : ∀ a, write a ≠ .null) : ReadsIn l (optional reader) value (setting.map f) := by
  rcases h.cases hmem with ⟨a, rfl, rfl⟩ | ⟨rfl, rfl⟩
  · exact (hread a).optional (hwrite a)
  · exact readsIn_null

theorem Holds.readsIn_text {setting : Option String} (h : Holds members name (setting.map .str))
    (hmem : (name, value) ∈ members) (expected : String) :
    ReadsIn l (optional (Json.Reader.text expected)) value setting := by
  have hread := h.readsIn hmem (f := id) (Json.Reader.readsIn_text (l := l) expected) nofun
  rwa [Option.map_id] at hread

end Settings

/-! ## Sections -/

/-- Whether members hold the settings of the section. -/
def TranslationSection.HeldBy (s : TranslationSection) (members : Json.Members) : Prop :=
  Holds members "maxDepth" (s.maxDepth.map jsonOfUInt64)

/-- Whether members hold the settings of the section. -/
structure QueryLogSection.HeldBy (s : QueryLogSection) (members : Json.Members) : Prop where
  directory : Holds members "directory" (s.directory.map .str)
  systemFile : Holds members "systemFile" (s.systemFile.map .str)
  userFile : Holds members "userFile" (s.userFile.map .str)
  userIndexPrefix : Holds members "userIndexPrefix" (s.userIndexPrefix.map .str)

/-- The section with only the settings that have been read. -/
def TranslationSection.partly (s : TranslationSection) (seen : List String) :
    TranslationSection where
  maxDepth := if "maxDepth" ∈ seen then s.maxDepth else none

/-- The section with only the settings that have been read. -/
def QueryLogSection.partly (s : QueryLogSection) (seen : List String) : QueryLogSection where
  directory := if "directory" ∈ seen then s.directory else none
  systemFile := if "systemFile" ∈ seen then s.systemFile else none
  userFile := if "userFile" ∈ seen then s.userFile else none
  userIndexPrefix := if "userIndexPrefix" ∈ seen then s.userIndexPrefix else none

theorem TranslationSection.HeldBy.readsIn {s : TranslationSection} (h : s.HeldBy members) :
    ReadsIn l (TranslationSection.shape.read .unset) (.obj members) s := by
  refine Shape.readsIn_partly s.partly ?_ ?_ ?_ ?_
  · intro key value hmem field hfield seen
    obtain ⟨hfieldMem, rfl⟩ := Shape.mem_of_field? hfield
    obtain rfl := List.mem_singleton.1 hfieldMem
    have hnatural : ∀ n : UInt64,
        ReadsIn l (natural UInt64.size "usize") (jsonOfUInt64 n) n.toNat :=
      fun n => readsIn_jsonOfUInt64 l "usize" n.toNat_lt
    have hdepth : (s.maxDepth.map UInt64.toNat).map UInt64.ofNat = s.maxDepth := by
      cases s.maxDepth <;> simp
    refine (Holds.readsIn h hmem hnatural nofun).map_eq
      (fun depth => TranslationSection.mk (depth.map UInt64.ofNat)) ?_
    simp [partly, hdepth]
  · exact List.forall_mem_singleton.2 h.length_le
  · exact List.forall_mem_singleton.2 nofun
  · intro seen hseen
    have hdepth := h.ite_eq (hseen _ (List.mem_singleton_self _))
    exact congrArg TranslationSection.mk hdepth

theorem QueryLogSection.HeldBy.readsIn {s : QueryLogSection} (h : s.HeldBy members) :
    ReadsIn l (QueryLogSection.shape.read .unset) (.obj members) s := by
  refine Shape.readsIn_partly s.partly ?_ ?_ ?_ ?_
  · intro key value hmem field hfield seen
    obtain ⟨hfieldMem, rfl⟩ := Shape.mem_of_field? hfield
    simp only [shape, List.mem_cons, List.not_mem_nil, or_false] at hfieldMem
    rcases hfieldMem with rfl | rfl | rfl | rfl
    · refine (h.directory.readsIn_text hmem "path string").map_eq
        (fun setting => { s.partly seen with directory := setting }) ?_
      simp [partly]
    · refine (h.systemFile.readsIn_text hmem "a string").map_eq
        (fun setting => { s.partly seen with systemFile := setting }) ?_
      simp [partly]
    · refine (h.userFile.readsIn_text hmem "a string").map_eq
        (fun setting => { s.partly seen with userFile := setting }) ?_
      simp [partly]
    · refine (h.userIndexPrefix.readsIn_text hmem "a string").map_eq
        (fun setting => { s.partly seen with userIndexPrefix := setting }) ?_
      simp [partly]
  · simp only [shape, List.forall_mem_cons]
    exact ⟨h.directory.length_le, h.systemFile.length_le, h.userFile.length_le,
      h.userIndexPrefix.length_le, List.forall_mem_nil _⟩
  · simp [shape]
  · intro seen hseen
    simp only [shape, List.forall_mem_cons] at hseen
    obtain ⟨hdirectory, hsystemFile, huserFile, huserIndexPrefix, -⟩ := hseen
    simp only [partly, h.directory.ite_eq hdirectory, h.systemFile.ite_eq hsystemFile,
      h.userFile.ite_eq huserFile, h.userIndexPrefix.ite_eq huserIndexPrefix]

/-- Whether members hold a section: once an object that holds its settings, or nothing if none of
them is set. -/
def HoldsSection (members : Json.Members) (name : String) (held : Json.Members → Prop)
    (isUnset : Prop) : Prop :=
  (∃ settings, members.allOf name = [.obj settings] ∧ held settings) ∨
    members.allOf name = [] ∧ isUnset

section Sections

variable {name : String} {held : Json.Members → Prop} {isUnset : Prop} {value : Json}

theorem HoldsSection.length_le (h : HoldsSection members name held isUnset) :
    (members.allOf name).length ≤ 1 := by
  rcases h with ⟨settings, h, -⟩ | ⟨h, -⟩
  · rw [h]
    exact Nat.le_refl 1
  · rw [h]
    exact Nat.zero_le 1

theorem HoldsSection.exists_settings (h : HoldsSection members name held isUnset)
    (hmem : (name, value) ∈ members) : ∃ settings, value = .obj settings ∧ held settings := by
  have hvalue := Json.Members.mem_allOf_iff.2 hmem
  rcases h with ⟨settings, h, hheld⟩ | ⟨h, -⟩
  · rw [h] at hvalue
    exact ⟨settings, List.mem_singleton.1 hvalue, hheld⟩
  · rw [h] at hvalue
    contradiction

theorem HoldsSection.ite_eq {α : Type} {s unset : α}
    (h : HoldsSection members name held (s = unset)) {seen : List String}
    (hseen : name ∈ members.keys → name ∈ seen) : (if name ∈ seen then s else unset) = s := by
  by_cases hname : name ∈ seen
  · rw [if_pos hname]
  · rw [if_neg hname]
    rcases h with ⟨settings, h, -⟩ | ⟨-, rfl⟩
    · have hnil := Json.Members.allOf_eq_nil_iff.2 fun hkey => hname (hseen hkey)
      rw [h] at hnil
      contradiction
    · rfl

end Sections

/-! ## Whole configurations -/

/-- Whether members hold a configuration: its version once and its sections. What else there is and
in which order the members stand is left open. -/
structure HeldBy (c : Configuration) (members : Json.Members) : Prop where
  version : members.allOf "version" = [jsonOfUInt64 c.version.toUInt64]
  translation : HoldsSection members "translation" c.translation.HeldBy (c.translation = .unset)
  queryLog : HoldsSection members "queryLog" c.queryLog.HeldBy (c.queryLog = .unset)

/-- The configuration with only the members that have been read. -/
def partly (c : Configuration) (seen : List String) : Configuration where
  version := if "version" ∈ seen then c.version else currentVersion
  translation := if "translation" ∈ seen then c.translation else .unset
  queryLog := if "queryLog" ∈ seen then c.queryLog else .unset

theorem HeldBy.readsIn {c : Configuration} (h : c.HeldBy members) :
    ReadsIn l (shape.read empty) (.obj members) c := by
  refine Shape.readsIn_partly c.partly ?_ ?_ ?_ ?_
  · intro key value hmem field hfield seen
    obtain ⟨hfieldMem, rfl⟩ := Shape.mem_of_field? hfield
    simp only [shape, List.mem_cons, List.not_mem_nil, or_false] at hfieldMem
    rcases hfieldMem with rfl | rfl | rfl
    · have hvalue := Json.Members.mem_allOf_iff.2 hmem
      rw [h.version] at hvalue
      obtain rfl := List.mem_singleton.1 hvalue
      refine (readsIn_version l c.version).map_eq
        (fun n => { c.partly seen with version := UInt32.ofNat n }) ?_
      simp [partly]
    · obtain ⟨settings, rfl, hheld⟩ := h.translation.exists_settings hmem
      refine hheld.readsIn.map_eq (fun translation => { c.partly seen with translation }) ?_
      simp [partly]
    · obtain ⟨settings, rfl, hheld⟩ := h.queryLog.exists_settings hmem
      refine hheld.readsIn.map_eq (fun queryLog => { c.partly seen with queryLog }) ?_
      simp [partly]
  · simp only [shape, List.forall_mem_cons]
    refine ⟨?_, h.translation.length_le, h.queryLog.length_le, List.forall_mem_nil _⟩
    rw [h.version]
    exact Nat.le_refl 1
  · intro field hfield hrequired
    have hmem := Json.Members.mem_allOf_iff.1 (h.version ▸ List.mem_singleton_self _)
    rw [name_of_required field hfield hrequired]
    exact List.mem_map_of_mem hmem
  · intro seen hseen
    simp only [shape, List.forall_mem_cons] at hseen
    obtain ⟨hversion, htranslation, hqueryLog, -⟩ := hseen
    have hmem := Json.Members.mem_allOf_iff.1 (h.version ▸ List.mem_singleton_self _)
    have hkey : "version" ∈ seen := hversion (List.mem_map_of_mem hmem)
    simp only [partly, if_pos hkey, h.translation.ite_eq htranslation, h.queryLog.ite_eq hqueryLog]

/-! ## Members that no configuration has -/

/-- Whether something is wrong with the members of a configuration, whatever else they hold: there
is no version, a member or a setting comes twice, or a section is `null`. -/
inductive Flawed (members : Json.Members) : Prop where
  | noVersion (h : "version" ∉ members.keys)
  | member {name : String} (hname : name ∈ ["version", "translation", "queryLog"])
      (htwice : 2 ≤ (members.allOf name).length)
  | translation {settings : Json.Members} (h : ("translation", .obj settings) ∈ members)
      (htwice : 2 ≤ (settings.allOf "maxDepth").length)
  | queryLog {settings : Json.Members} (h : ("queryLog", .obj settings) ∈ members) {name : String}
      (hname : name ∈ ["directory", "systemFile", "userFile", "userIndexPrefix"])
      (htwice : 2 ≤ (settings.allOf name).length)
  | nullSection {name : String} (hname : name ∈ ["translation", "queryLog"])
      (h : (name, .null) ∈ members)

theorem TranslationSection.admits : TranslationSection.shape.Admits l fun _ _ => True := by
  refine List.forall_mem_singleton.2 fun record value => ?_
  exact ((keepsTo_natural UInt64.size "usize" value).optional).map _ fun _ _ => trivial

theorem QueryLogSection.admits : QueryLogSection.shape.Admits l fun _ _ => True := by
  have hsetting : ∀ (expected : String) (set : Option String → QueryLogSection) (value : Json),
      KeepsTo l (do return set (← optional (Json.Reader.text expected))) value fun _ => True :=
    fun expected set value => (keepsTo_text expected value).optional.map set fun _ _ => trivial
  unfold Shape.Admits
  simp only [shape, List.forall_mem_cons]
  exact ⟨fun s => hsetting _ fun setting => { s with directory := setting },
    fun s => hsetting _ fun setting => { s with systemFile := setting },
    fun s => hsetting _ fun setting => { s with userFile := setting },
    fun s => hsetting _ fun setting => { s with userIndexPrefix := setting },
    List.forall_mem_nil _⟩

/-- Whether a value may stand under the name of a section: it is not `null`, and an object holds no
setting twice. -/
def AdmitsSection {σ : Type} (sectionShape : Shape σ) (value : Json) : Prop :=
  value ≠ .null ∧ ∀ settings, value = .obj settings → sectionShape.Fits (fun _ _ => True) settings

/-- What may stand under the names of the members. -/
def AdmitsMember (name : String) (value : Json) : Prop :=
  (name = "translation" → AdmitsSection TranslationSection.shape value) ∧
    (name = "queryLog" → AdmitsSection QueryLogSection.shape value)

theorem admitsMember_version (value : Json) : AdmitsMember "version" value := by
  simp [AdmitsMember]

theorem admitsMember_translation_iff {value : Json} :
    AdmitsMember "translation" value ↔ AdmitsSection TranslationSection.shape value := by
  simp [AdmitsMember]

theorem admitsMember_queryLog_iff {value : Json} :
    AdmitsMember "queryLog" value ↔ AdmitsSection QueryLogSection.shape value := by
  simp [AdmitsMember]

theorem admits : shape.Admits l AdmitsMember := by
  unfold Shape.Admits
  simp only [shape, List.forall_mem_cons]
  refine ⟨fun c value => ?_, fun c value => ?_, fun c value => ?_, List.forall_mem_nil _⟩
  · exact (keepsTo_natural UInt32.size "u32" value).map _ fun _ _ => admitsMember_version value
  · refine (TranslationSection.admits.keepsTo_read .unset value).map _ fun _ h => ?_
    exact admitsMember_translation_iff.2 h
  · refine (QueryLogSection.admits.keepsTo_read .unset value).map _ fun _ h => ?_
    exact admitsMember_queryLog_iff.2 h

theorem not_flawed_of_fits (h : shape.Fits AdmitsMember members) : ¬Flawed members := by
  rintro (hmissing | ⟨hname, htwice⟩ | ⟨hmem, htwice⟩ | ⟨hmem, hname, htwice⟩ | ⟨hname, hmem⟩)
  · exact hmissing (h.required _ List.mem_cons_self rfl)
  · exact Nat.not_succ_le_self 1 (htwice.trans (h.length_le hname))
  · have hsection := admitsMember_translation_iff.1 (h.admits_of_mem (by simp [shape]) hmem)
    have hfits := hsection.2 _ rfl
    exact Nat.not_succ_le_self 1 (htwice.trans (hfits.length_le (List.mem_singleton_self _)))
  · have hsection := admitsMember_queryLog_iff.1 (h.admits_of_mem (by simp [shape]) hmem)
    have hfits := hsection.2 _ rfl
    exact Nat.not_succ_le_self 1 (htwice.trans (hfits.length_le hname))
  · have hadmits := h.admits_of_mem (List.mem_cons_of_mem _ hname) hmem
    obtain rfl | hname := List.mem_cons.1 hname
    · exact (admitsMember_translation_iff.1 hadmits).1 rfl
    · obtain rfl := List.mem_singleton.1 hname
      exact (admitsMember_queryLog_iff.1 hadmits).1 rfl

theorem not_flawed_of_parse {text : String} {c : Configuration}
    (htext : (Json.obj members).Written text) (h : parse text = .ok c) : ¬Flawed members := by
  have hread := of_run_written (fun _ => admits.keepsTo_read empty (.obj members)) htext h
  exact not_flawed_of_fits (hread.2 members rfl)

/-! ## Loading -/

/-- A file in which an object is written is loaded as the configuration that the object holds, and
cannot be read if something is wrong with the members of the object. -/
theorem load_written {store : FileStore} {directory text : String}
    (hfile : store.readText (Path.join directory fileName) = .ok text)
    (htext : (Json.obj members).Written text) :
    (∀ c : Configuration, c.version = currentVersion → c.HeldBy members →
      load store directory = .ok c) ∧
    (Flawed members →
      ∃ e, load store directory = .error (.malformed (Path.join directory fileName) e)) := by
  constructor
  · intro c hversion hheld
    have hparse : parse text = .ok c := run_written (fun _ => hheld.readsIn) htext
    unfold load
    dsimp only
    rw [hfile]
    dsimp only
    rw [hparse]
    exact if_pos hversion
  · intro hflawed
    unfold load
    dsimp only
    rw [hfile]
    dsimp only
    cases hparse : parse text with
    | ok c => exact absurd hflawed (not_flawed_of_parse htext hparse)
    | error e => exact ⟨e, rfl⟩

/-- Members in another order than they are written in, with a setting that is `null`, without one of
the sections, and with others between them. -/
def scatteredMembers : Json.Members := [
  ("comment", .arr [.null, .obj [("version", jsonOfUInt64 2)]]),
  ("queryLog", .obj [
    ("userFile", .str "mine.txt"),
    ("comment", .bool false),
    ("directory", .null),
    ("comment", .str "\n")]),
  ("version", jsonOfUInt64 1),
  ("comment", .null)]

/-- The file store in which a directory has a configuration file with the text. -/
def storing (text : String) : FileStore :=
  ((FileStore.empty []).put ["conf"] .directory).put ["conf", fileName] (.file text.toUTF8)

theorem readText_storing (text : String) :
    (storing text).readText (Path.join "conf" fileName) = .ok text :=
  FileStore.readText_of_read rfl

theorem load_scatteredMembers :
    load (storing ((Json.obj scatteredMembers).pretty ++ "\n")) "conf" =
        .ok ⟨1, .unset, ⟨none, none, some "mine.txt", none⟩⟩ ∧
      ∃ e, load (storing (Json.obj (("translation", .null) :: scatteredMembers)).compact) "conf" =
        .error (.malformed "conf/configuration.json" e) := by
  constructor
  · have hloads := load_written (readText_storing _) (Json.obj scatteredMembers).written_pretty_line
    refine hloads.1 _ rfl ⟨rfl, .inr ⟨rfl, rfl⟩, .inl ⟨_, rfl, ?_⟩⟩
    exact ⟨.inr rfl, .inl rfl, rfl, .inl rfl⟩
  · have hloads := load_written (readText_storing _)
      (Json.obj (("translation", .null) :: scatteredMembers)).written_compact
    exact hloads.2 (.nullSection List.mem_cons_self List.mem_cons_self)

end ClauseFilter.Configuration

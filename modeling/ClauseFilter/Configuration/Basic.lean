import ClauseFilter.Json.Printer
import ClauseFilter.Json.Record

/-!
# Configurations as they are written

A configuration names the version of its format and may set a limit on translations and the places
of the query log. What is not set is left out of its text, a section in which nothing is set as a
whole; reading the text gives the configuration back.
-/

namespace ClauseFilter

/-- Limits on translations. -/
structure Configuration.TranslationSection where
  maxDepth : Option UInt64
deriving DecidableEq

/-- Where and how translated queries are recorded. -/
structure Configuration.QueryLogSection where
  directory : Option String
  systemFile : Option String
  userFile : Option String
  userIndexPrefix : Option String
deriving DecidableEq

structure Configuration where
  version : UInt32
  translation : Configuration.TranslationSection
  queryLog : Configuration.QueryLogSection
deriving DecidableEq

namespace Configuration

/-- The section in which nothing is set. -/
def TranslationSection.unset : TranslationSection :=
  ⟨none⟩

/-- The section in which nothing is set. -/
def QueryLogSection.unset : QueryLogSection :=
  ⟨none, none, none, none⟩

/-- The version of the format that this library reads. -/
def currentVersion : UInt32 :=
  1

/-- The configuration of the current version in which nothing is set. -/
def empty : Configuration :=
  ⟨currentVersion, .unset, .unset⟩

/-! ## Writing -/

def jsonOfUInt64 (n : UInt64) : Json :=
  .num (.int n.toNat ⟨by omega, by have := n.toNat_lt; omega⟩)

/-- A member for a setting, if it is set. -/
def settingMember (name : String) (setting : Option Json) : Json.Members :=
  match setting with
  | some value => [(name, value)]
  | none => []

/-- A member for a section, if anything is set in it. -/
def sectionMember (name : String) (settings : Json.Members) : Json.Members :=
  match settings with
  | [] => []
  | _ => [(name, .obj settings)]

def TranslationSection.members (s : TranslationSection) : Json.Members :=
  settingMember "maxDepth" (s.maxDepth.map jsonOfUInt64)

def QueryLogSection.members (s : QueryLogSection) : Json.Members :=
  settingMember "directory" (s.directory.map .str) ++
    settingMember "systemFile" (s.systemFile.map .str) ++
    settingMember "userFile" (s.userFile.map .str) ++
    settingMember "userIndexPrefix" (s.userIndexPrefix.map .str)

/-- The configuration as a JSON object. -/
def toJson (c : Configuration) : Json :=
  .obj (("version", jsonOfUInt64 c.version.toUInt64) ::
    (sectionMember "translation" c.translation.members ++
      sectionMember "queryLog" c.queryLog.members))

/-- The text of a configuration file. -/
def text (c : Configuration) : String :=
  c.toJson.pretty ++ "\n"

/-! ## Reading -/

open Json.Reader

def TranslationSection.shape : Shape TranslationSection where
  title := "struct TranslationSection"
  fields := [
    ⟨"maxDepth", false, fun s => do
      let depth ← optional (natural UInt64.size "usize")
      return { s with maxDepth := depth.map UInt64.ofNat }⟩]

def QueryLogSection.shape : Shape QueryLogSection where
  title := "struct QueryLogSection"
  fields := [
    ⟨"directory", false, fun s => do
      return { s with directory := ← optional (Json.Reader.text "path string") }⟩,
    ⟨"systemFile", false, fun s => do
      return { s with systemFile := ← optional (Json.Reader.text "a string") }⟩,
    ⟨"userFile", false, fun s => do
      return { s with userFile := ← optional (Json.Reader.text "a string") }⟩,
    ⟨"userIndexPrefix", false, fun s => do
      return { s with userIndexPrefix := ← optional (Json.Reader.text "a string") }⟩]

def shape : Shape Configuration where
  title := "struct ParsedConfiguration"
  fields := [
    ⟨"version", true, fun c => do
      return { c with version := UInt32.ofNat (← natural UInt32.size "u32") }⟩,
    ⟨"translation", false, fun c => do
      return { c with translation := ← TranslationSection.shape.read .unset }⟩,
    ⟨"queryLog", false, fun c => do
      return { c with queryLog := ← QueryLogSection.shape.read .unset }⟩]

/-- Reads a configuration of any version from its text. -/
def parse (text : String) : Except Json.ReadError Configuration :=
  (shape.read empty).run text

end Configuration

end ClauseFilter

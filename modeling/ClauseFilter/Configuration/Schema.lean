import ClauseFilter.Json.Printer

/-!
# The schema of configurations

A JSON schema that describes configuration files. It is written next to every configuration, so that
editors can check the file.
-/

namespace ClauseFilter.Configuration.Schema

/-- The least value of a setting that is a whole number. -/
def atLeastZero : Json :=
  .num (.float (.zero false))

/-- A setting of a type, which may also be null. -/
def nullable (type : String) : String × Json :=
  ("type", .arr [.str type, .str "null"])

def described (text : String) : String × Json :=
  ("description", .str text)

def reference (name : String) : Json :=
  .obj [("$ref", .str ("#/definitions/" ++ name))]

def translationSection : Json := .obj [
  described "Limits applied while translating a clause document.",
  ("type", .str "object"),
  ("properties", .obj [
    ("maxDepth", .obj [
      described "Maximum nesting depth of clause documents.",
      nullable "integer",
      ("format", .str "uint"),
      ("minimum", atLeastZero)])])]

def queryLogSection : Json := .obj [
  described "Where and how translated queries are recorded.",
  ("type", .str "object"),
  ("properties", .obj [
    ("directory", .obj [
      described ("Directory holding the query log files. Overridden by the QUERY_LOG_DIRECTORY " ++
        "environment variable."),
      nullable "string"]),
    ("systemFile", .obj [nullable "string"]),
    ("userFile", .obj [nullable "string"]),
    ("userIndexPrefix", .obj [
      described "Indexes starting with this prefix are user indexes.",
      nullable "string"])])]

/-- The whole schema. -/
def document : Json := .obj [
  ("$schema", .str "http://json-schema.org/draft-07/schema#"),
  ("title", .str "ParsedConfiguration"),
  described "The configuration as written by a user. Every setting is optional.",
  ("type", .str "object"),
  ("required", .arr [.str "version"]),
  ("properties", .obj [
    ("version", .obj [
      ("type", .str "integer"),
      ("format", .str "uint32"),
      ("minimum", atLeastZero)]),
    ("translation", reference "TranslationSection"),
    ("queryLog", reference "QueryLogSection")]),
  ("definitions", .obj [
    ("TranslationSection", translationSection),
    ("QueryLogSection", queryLogSection)])]

/-- The text of a schema file. -/
def text : String :=
  document.pretty ++ "\n"

end ClauseFilter.Configuration.Schema

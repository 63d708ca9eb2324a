import ClauseFilter.Configuration.Basic
import ClauseFilter.Configuration.Schema
import ClauseFilter.FileStore

/-!
# Configurations in a directory

A directory holds a configuration in a file of a fixed name, with the schema of such files next to
it. Only configurations of the current version can be loaded.
-/

namespace ClauseFilter.Configuration

def fileName : String :=
  "configuration.json"

def schemaFileName : String :=
  "schema.json"

/-- Why a configuration cannot be loaded from a file. -/
inductive LoadError where
  | unreadable (path : String) (refusal : FileStore.Refusal)
  | malformed (path : String) (e : Json.ReadError)
  | unsupportedVersion (path : String) (version : UInt32)

def LoadError.message : LoadError → String
  | unreadable path refusal => "I/O error: " ++ path ++ ": " ++ refusal.message
  | malformed path e =>
    "parse error on " ++ path ++ ":" ++ toString e.position.line ++ ":" ++
      toString e.position.column ++ ": " ++ e.message
  | unsupportedVersion path version =>
    "unsupported configuration version " ++ toString version.toNat ++ " in " ++ path

/-- Loads the configuration of a directory. -/
def load (store : FileStore) (directory : String) : Except LoadError Configuration :=
  let path := Path.join directory fileName
  match store.readText path with
  | .error refusal => .error (.unreadable path refusal)
  | .ok text =>
    match parse text with
    | .error e => .error (.malformed path e)
    | .ok c =>
      if c.version = currentVersion then .ok c
      else .error (.unsupportedVersion path c.version)

/-- Saves a configuration and the schema in a directory, which is made if it is missing. What has
been written stays when a later step is refused. -/
def save (c : Configuration) (store : FileStore) (directory : String) :
    Except FileStore.Refusal Unit × FileStore :=
  match store.makeDirectories directory with
  | (.error refusal, store) => (.error refusal, store)
  | (.ok (), store) =>
    match store.write (Path.join directory fileName) c.text.toUTF8 with
    | .error refusal => (.error refusal, store)
    | .ok store =>
      match store.write (Path.join directory schemaFileName) Schema.text.toUTF8 with
      | .error refusal => (.error refusal, store)
      | .ok store => (.ok (), store)

end ClauseFilter.Configuration

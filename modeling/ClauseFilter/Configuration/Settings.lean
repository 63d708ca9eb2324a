import ClauseFilter.Configuration.Basic
import ClauseFilter.Environment
import ClauseFilter.Path
import ClauseFilter.Translation

/-!
# Settings

The settings that a program runs with: those of a configuration, with a default for each that is not
set there. One environment variable, if it is set, has the last word on the directory of the query
log.
-/

namespace ClauseFilter

/-- Where translated queries are recorded. -/
structure LogSettings where
  directory : String
  /-- The file for queries against any other index. -/
  systemFile : String
  /-- The file for queries against user indexes. -/
  userFile : String
  /-- User indexes have names that begin with this text. -/
  userIndexPrefix : String
deriving DecidableEq

namespace LogSettings

def default : LogSettings where
  directory := "/var/log/query-dsl"
  systemFile := "system-query.txt"
  userFile := "user-query.txt"
  userIndexPrefix := "logs-X"

def systemPath (s : LogSettings) : String :=
  Path.join s.directory s.systemFile

def userPath (s : LogSettings) : String :=
  Path.join s.directory s.userFile

/-- Whether an index holds queries of users. -/
def isUserIndex (s : LogSettings) (index : String) : Bool :=
  s.userIndexPrefix.toList.isPrefixOf index.toList

end LogSettings

structure Settings where
  maxDepth : Nat
  log : LogSettings
deriving DecidableEq

namespace Settings

inductive Error where
  /-- At least one level of clauses has to be allowed. -/
  | zeroDepth
  | environment (e : Environment.Error)
deriving DecidableEq

def Error.message : Error → String
  | zeroDepth => "invalid maxDepth 0: at least one level of nesting is required"
  | environment e => "environment error: " ++ e.message

/-- The variable that sets the directory of the query log. -/
def directoryVariable : String :=
  "QUERY_LOG_DIRECTORY"

def depthOf (s : Configuration.TranslationSection) : Except Error Nat :=
  match s.maxDepth with
  | none => .ok defaultMaxDepth
  | some 0 => .error .zeroDepth
  | some depth => .ok depth.toNat

def directoryOf (s : Configuration.QueryLogSection) (env : Environment) : Except Error String :=
  match env.read directoryVariable with
  | .ok directory => .ok directory
  | .error (.notSet _) => .ok (s.directory.getD LogSettings.default.directory)
  | .error e => .error (.environment e)

/-- The settings of a configuration in an environment. -/
def ofConfiguration (c : Configuration) (env : Environment) : Except Error Settings := do
  let maxDepth ← depthOf c.translation
  let directory ← directoryOf c.queryLog env
  return {
    maxDepth
    log := {
      directory
      systemFile := c.queryLog.systemFile.getD LogSettings.default.systemFile
      userFile := c.queryLog.userFile.getD LogSettings.default.userFile
      userIndexPrefix := c.queryLog.userIndexPrefix.getD LogSettings.default.userIndexPrefix } }

end Settings

end ClauseFilter

import ClauseFilter.Configuration.Settings
import ClauseFilter.FileStore

/-!
# The query log

Every translated query is recorded in one of two files: queries against user indexes in the one, all
others in the other. A record begins with a line that says whether the translation is faithful. It
goes on with the whole predicate if it is not, and with the document if it is not or if the query is
one of a user.
-/

namespace ClauseFilter

/-- The file that a record goes to. -/
inductive Destination where
  | system
  | user
deriving DecidableEq

/-- What an event calls a destination. -/
def Destination.label : Destination → String
  | system => "System"
  | user => "User"

namespace QueryLog

/-- The first line of a record. -/
def headline (index method : String) (p : Predicate) : String :=
  (if p.translatable then "PASS" else "FAIL") ++ ": " ++ index ++ " " ++ method ++ "\n"

/-- The text of a record. -/
def recordText (index method : String) (destination : Destination) (document : Json)
    (p : Predicate) : String :=
  headline index method p ++
    (if p.translatable then "" else p.display ++ "\n") ++
    (if !p.translatable || destination == .user then document.pretty ++ "\n\n" else "")

end QueryLog

structure QueryLog where
  settings : Settings

namespace QueryLog

/-- What is told while a query is recorded: the events of its translation, and its recording. -/
inductive Event where
  | translation (e : ClauseFilter.Event)
  | recording (index method : String) (destination : Destination) (translatable : Bool)

def Event.level : Event → Level
  | translation e => e.level
  | recording _ _ _ _ => .info

/-- What an event says, apart from its details. -/
def Event.message : Event → String
  | translation e => e.message
  | recording _ _ _ _ => "recording query"

def destination (log : QueryLog) (index : String) : Destination :=
  if log.settings.log.isUserIndex index then .user else .system

def path (log : QueryLog) : Destination → String
  | .system => log.settings.log.systemPath
  | .user => log.settings.log.userPath

/-- A method without the slash that it may begin with. -/
def methodName (method : String) : String :=
  match method.toList with
  | '/' :: rest => String.ofList rest
  | _ => method

/-- A query that has been translated, and the record of it. -/
structure Entry where
  predicate : Predicate
  destination : Destination
  text : String
  events : List Event

/-- The entry of a query, which does not depend on the files. -/
def entry (log : QueryLog) (index method : String) (document : Json) : Entry :=
  let method := methodName method
  let destination := log.destination index
  let translation := translate log.settings.maxDepth document
  { predicate := translation.predicate
    destination
    text := recordText index method destination document translation.predicate
    events := translation.events.map .translation ++
      [.recording index method destination translation.predicate.translatable] }

/-- Why a record cannot be written. -/
structure Error where
  path : String
  refusal : FileStore.Refusal

def Error.message (e : Error) : String :=
  "unable to write query log " ++ e.path ++ ": " ++ e.refusal.message

/-- Appends a text to the file of a destination. The log directory is made first. -/
def append (log : QueryLog) (store : FileStore) (destination : Destination) (text : String) :
    Except Error Unit × FileStore :=
  let path := log.path destination
  match store.makeDirectories log.settings.log.directory with
  | (.error refusal, store) => (.error ⟨path, refusal⟩, store)
  | (.ok (), store) =>
    match store.append path text.toUTF8 with
    | .error refusal => (.error ⟨path, refusal⟩, store)
    | .ok store => (.ok (), store)

/-- Translates a query and appends its record to a file. -/
def record (log : QueryLog) (store : FileStore) (index method : String) (document : Json) :
    Except Error Entry × FileStore :=
  let entry := log.entry index method document
  match log.append store entry.destination entry.text with
  | (.ok (), store) => (.ok entry, store)
  | (.error e, store) => (.error e, store)

end QueryLog

end ClauseFilter

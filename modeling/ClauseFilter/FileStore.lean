import ClauseFilter.Path

/-!
# Files and directories

A store maps places to files and directories; a place is the list of the names that lead to it from
the root. Operations take paths as they are written, follow their names one by one, and fail for
the reasons for which a file system refuses them.

Only what a path leads to can make an operation fail. There is room for whatever is written, so that
writing and appending succeed in full once their file is open: no disk is full, no write comes
short, and no access is denied.
-/

namespace ClauseFilter

/-- The names that lead to a file or directory from the root. -/
abbrev Place := List String

inductive FileStore.Node where
  | directory
  | file (content : ByteArray)

structure FileStore where
  /-- The directory at which relative paths begin. -/
  working : Place
  /-- What is at a place below the root. -/
  node : Place → Option FileStore.Node

namespace FileStore

/-- Why an operation on a path is refused. -/
inductive Refusal where
  | notFound
  | occupied
  | notADirectory
  | isADirectory
  | nameTooLong
  | nulInName
  | notUtf8
deriving DecidableEq

def Refusal.message : Refusal → String
  | notFound => "No such file or directory (os error 2)"
  | occupied => "File exists (os error 17)"
  | notADirectory => "Not a directory (os error 20)"
  | isADirectory => "Is a directory (os error 21)"
  | nameTooLong => "File name too long (os error 36)"
  | nulInName => "file name contained an unexpected NUL byte"
  | notUtf8 => "stream did not contain valid UTF-8"

/-- The store in which there is nothing but the directories down to the working directory. -/
def empty (working : Place) : FileStore where
  working := working
  node := fun place => if place.isPrefixOf working then some .directory else none

/-- What is at a place. The root is a directory. -/
def at? (store : FileStore) (place : Place) : Option Node :=
  if place = [] then some .directory else store.node place

def isDirectoryAt (store : FileStore) (place : Place) : Bool :=
  match store.at? place with
  | some .directory => true
  | _ => false

/-- The content of the file at a place. -/
def content? (store : FileStore) (place : Place) : Option ByteArray :=
  match store.at? place with
  | some (.file content) => some content
  | _ => none

/-- The store with something put at a place. -/
def put (store : FileStore) (place : Place) (node : Node) : FileStore :=
  { store with node := fun other => if other = place then some node else store.node other }

/-! ## Following a path -/

/-- The longest name, in bytes, and the longest path. -/
def maxName : Nat := 255

def maxPath : Nat := 4095

/-- The place that a name leads to from a directory. -/
def enter (directory : Place) (name : String) : Place :=
  if name = "." then directory
  else if name = ".." then directory.dropLast
  else directory ++ [name]

/-- Follows names from a place, each of which must lead from a directory to something. -/
def follow (store : FileStore) : Place → List String → Except Refusal Place
  | place, [] => .ok place
  | place, name :: rest =>
    if !store.isDirectoryAt place then .error .notADirectory
    else if maxName < name.utf8ByteSize then .error .nameTooLong
    else if (store.at? (enter place name)).isNone then .error .notFound
    else follow store (enter place name) rest

/-- Where a path leads: to a directory that it names by dots or as the root, or to the place of a
name in a directory, at which there may be nothing. -/
inductive Target where
  | known (directory : Place)
  | named (directory : Place) (name : String)

/-- Follows a route up to its last name. -/
def target (store : FileStore) (route : Path.Route) : Except Refusal Target :=
  let start := if route.absolute then [] else store.working
  match route.names.getLast? with
  | none => .ok (.known start)
  | some name => do
    let directory ← follow store start route.names.dropLast
    if !store.isDirectoryAt directory then .error .notADirectory
    else if name = "." ∨ name = ".." then .ok (.known (enter directory name))
    else .ok (.named directory name)

/-- The route of a path that can be followed at all. -/
def checked (path : String) : Except Refusal Path.Route :=
  if '\x00' ∈ path.toList then .error .nulInName
  else if path = "" then .error .notFound
  else if maxPath < path.utf8ByteSize then .error .nameTooLong
  else .ok (Path.route path)

/-- The place of a name that may be looked up. -/
def placeOf (directory : Place) (name : String) : Except Refusal Place :=
  if maxName < name.utf8ByteSize then .error .nameTooLong else .ok (directory ++ [name])

/-! ## Operations -/

/-- Whether a route leads to a directory. -/
def isDirectory (store : FileStore) (route : Path.Route) : Bool :=
  match store.target route with
  | .ok (.known _) => true
  | .ok (.named directory name) =>
    match placeOf directory name with
    | .ok place => store.isDirectoryAt place
    | .error _ => false
  | .error _ => false

/-- Reads a file. -/
def read (store : FileStore) (path : String) : Except Refusal ByteArray := do
  let route ← checked path
  match ← store.target route with
  | .known _ => .error .isADirectory
  | .named directory name =>
    let place ← placeOf directory name
    match store.at? place with
    | none => .error .notFound
    | some .directory => .error .isADirectory
    | some (.file content) => if route.trailing then .error .notADirectory else .ok content

/-- Reads a file that holds UTF-8. -/
def readText (store : FileStore) (path : String) : Except Refusal String := do
  let content ← store.read path
  match String.fromUTF8? content with
  | some text => .ok text
  | none => .error .notUtf8

/-- The place of a file that is to be written. A path with a slash at its end is one of a
directory. -/
def writable (store : FileStore) (path : String) : Except Refusal Place := do
  let route ← checked path
  match ← store.target route with
  | .known _ => .error .isADirectory
  | .named directory name =>
    if route.trailing then .error .isADirectory
    else
      let place ← placeOf directory name
      match store.at? place with
      | some .directory => .error .isADirectory
      | _ => .ok place

/-- Writes a file, in place of what it held before. -/
def write (store : FileStore) (path : String) (content : ByteArray) : Except Refusal FileStore := do
  let place ← store.writable path
  .ok (store.put place (.file content))

/-- Writes to the end of a file, which need not be there before. -/
def append (store : FileStore) (path : String) (content : ByteArray) :
    Except Refusal FileStore := do
  let place ← store.writable path
  .ok (store.put place (.file ((store.content? place).getD .empty ++ content)))

/-- Makes a directory where there is nothing yet. -/
def makeDirectory (store : FileStore) (route : Path.Route) : Except Refusal FileStore := do
  match ← store.target route with
  | .known _ => .error .occupied
  | .named directory name =>
    let place ← placeOf directory name
    match store.at? place with
    | some _ => .error .occupied
    | none => .ok (store.put place .directory)

/-- Makes a directory, or accepts the one that is there. -/
def ensureDirectory (store : FileStore) (route : Path.Route) : Except Refusal FileStore :=
  match store.makeDirectory route with
  | .ok made => .ok made
  | .error refusal => if store.isDirectory route then .ok store else .error refusal

/-- Makes a directory, and those above it if it lacks them. What has been made stays when a later
step is refused. -/
def makeAll (store : FileStore) : List Path.Route → Except Refusal Unit × FileStore
  | [] => (.ok (), store)
  | route :: above =>
    match store.makeDirectory route with
    | .ok made => (.ok (), made)
    | .error .notFound =>
      match makeAll store above with
      | (.error refusal, made) => (.error refusal, made)
      | (.ok (), made) =>
        match made.ensureDirectory route with
        | .ok final => (.ok (), final)
        | .error refusal => (.error refusal, made)
    | .error refusal =>
      if store.isDirectory route then (.ok (), store) else (.error refusal, store)

/-- Makes the directory of a path and those above it. The empty path stands for the working
directory, which is there. -/
def makeDirectories (store : FileStore) (path : String) : Except Refusal Unit × FileStore :=
  if path = "" then (.ok (), store)
  else
    match checked path with
    | .error refusal => (.error refusal, store)
    | .ok route => store.makeAll (route :: route.above)

end FileStore

end ClauseFilter

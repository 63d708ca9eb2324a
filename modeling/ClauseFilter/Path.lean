/-!
# Paths

A path is a text in which slashes stand between names. It is kept as it was written, because
messages show it so; what it leads to depends only on its names and on whether it begins or ends
with a slash.
-/

namespace ClauseFilter.Path

/-- A path to a file that is given relative to a directory. An absolute one needs no directory. -/
def join (directory file : String) : String :=
  if file.toList.head? = some '/' ∨ directory = "" then file
  else if directory.toList.getLast? = some '/' then directory ++ file
  else directory ++ "/" ++ file

/-- The runs of characters between slashes, the empty ones too. -/
def runs : List Char → List (List Char)
  | [] => [[]]
  | c :: rest =>
    if c = '/' then [] :: runs rest
    else
      match runs rest with
      | [] => [[c]]
      | run :: more => (c :: run) :: more

/-- A path taken apart. -/
structure Route where
  /-- Whether the path begins at the root. -/
  absolute : Bool
  names : List String
  /-- Whether the path ends with a slash. -/
  trailing : Bool
deriving DecidableEq

def route (path : String) : Route where
  absolute := path.toList.head? == some '/'
  names := ((runs path.toList).filter (· ≠ [])).map String.ofList
  trailing := path.toList.getLast? == some '/'

namespace Route

/-- The route without the dots that only stand for the directory before them. A dot that a relative
route begins with stays. -/
def plain (r : Route) : Route :=
  let kept :=
    match r.absolute, r.names with
    | false, first :: rest => first :: rest.filter (· ≠ ".")
    | _, names => names.filter (· ≠ ".")
  { r with names := kept, trailing := false }

/-- The routes to the directories above, the nearest one first. The place where all routes begin is
not among them. -/
def above (r : Route) : List Route :=
  let names := r.plain.names
  ((List.range names.length).tail.map fun count =>
    { r.plain with names := names.take count }).reverse

end Route

end ClauseFilter.Path

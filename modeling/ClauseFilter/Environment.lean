/-!
# Environment variables

An environment gives some names a value, which is a text unless its bytes are no UTF-8. It is made
from pairs of a name and a value, or from the entries that a process is started with.
-/

namespace ClauseFilter

structure Environment where
  /-- The bytes of the value of a variable that is set. -/
  bytes? : String → Option ByteArray

namespace Environment

inductive Error where
  | notSet (name : String)
  | notUnicode (name : String)
deriving DecidableEq

def Error.message : Error → String
  | notSet name => "the variable " ++ name ++ " is not set"
  | notUnicode name => "the value of the variable " ++ name ++ " is not valid unicode"

/-- The environment with no variables at all. -/
def empty : Environment :=
  ⟨fun _ => none⟩

/-- The environment of some variables and their values. -/
def ofList (pairs : List (String × ByteArray)) : Environment :=
  ⟨fun name => List.lookup name pairs⟩

/-- The entry of a variable in the environment of a process: the name, `=` and the value. -/
def entry (name : String) (value : ByteArray) : List UInt8 :=
  name.toUTF8.toList ++ '='.toUInt8 :: value.toList

/-- The environment that a process has by its entries. A name has the bytes that come after it and a
`=` in the first entry that begins so. Nothing says where the name of an entry ends, so a name that
holds a `=` has a value when an entry goes on in this way. -/
def ofEntries (entries : List (List UInt8)) : Environment :=
  ⟨fun name => (entries.findSome? (entry name .empty).isPrefixOf?).map fun rest => ⟨rest.toArray⟩⟩

/-- The text that a variable is set to. -/
def read (env : Environment) (name : String) : Except Error String :=
  match env.bytes? name with
  | none => .error (.notSet name)
  | some bytes =>
    match String.fromUTF8? bytes with
    | none => .error (.notUnicode name)
    | some value => .ok value

end Environment

end ClauseFilter

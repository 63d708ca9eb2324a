import ClauseFilter.Binary64.Basic

/-!
# JSON values

Objects keep the order of their members. A number is a whole number where it was written as one that
fits into 64 bits, with or without a sign, and a finite float otherwise.
-/

namespace ClauseFilter

/-- A number of a JSON document. -/
inductive Json.Number where
  | int (n : Int) (inRange : -(1 <<< 63) ≤ n ∧ n < 1 <<< 64)
  | float (x : Binary64)
deriving DecidableEq

inductive Json where
  | null
  | bool (b : Bool)
  | num (n : Json.Number)
  | str (s : String)
  | arr (items : List Json)
  | obj (members : List (String × Json))

namespace Json

/-- The members of an object, in order. -/
abbrev Members := List (String × Json)

/-- The six kinds of JSON values. -/
inductive Kind where
  | null
  | boolean
  | number
  | string
  | array
  | object
deriving DecidableEq

/-- The name of a kind within a sentence. -/
def Kind.phrase : Kind → String
  | null => "null"
  | boolean => "a boolean"
  | number => "a number"
  | string => "a string"
  | array => "an array"
  | object => "an object"

def kind : Json → Kind
  | .null => .null
  | .bool _ => .boolean
  | .num _ => .number
  | .str _ => .string
  | .arr _ => .array
  | .obj _ => .object

/-- The float nearest to a number. -/
def Number.nearest? : Number → Option Binary64
  | int n _ => Binary64.ofInt? n
  | float x => some x

namespace Members

/-- The value of a member. -/
def get? (members : Members) (key : String) : Option Json :=
  members.lookup key

def keys (members : Members) : List String :=
  members.map Prod.fst

/-- Whether there is a member of this name. -/
def has (members : Members) (key : String) : Bool :=
  (members.get? key).isSome

@[simp] theorem keys_cons (key : String) (value : Json) (rest : Members) :
    keys ((key, value) :: rest) = key :: keys rest := rfl

@[simp] theorem keys_append (members members' : Members) :
    keys (members ++ members') = keys members ++ keys members' :=
  List.map_append

theorem get?_cons (k : String) (value : Json) (rest : Members) (key : String) :
    get? ((k, value) :: rest) key = if key = k then some value else get? rest key := by
  unfold get?
  rw [List.lookup_cons]
  split
  · next h => rw [if_pos (eq_of_beq h)]
  · next h => rw [if_neg (ne_of_beq_false h)]

theorem get?_isSome_iff {members : Members} {key : String} :
    (members.get? key).isSome ↔ key ∈ members.keys := by
  induction members with
  | nil => simp [get?, keys]
  | cons member rest ih =>
    rcases member with ⟨k, value⟩
    rw [get?_cons, keys_cons, List.mem_cons, ← ih]
    by_cases hk : key = k <;> simp [hk]

theorem has_eq (members : Members) (key : String) :
    members.has key = decide (key ∈ members.keys) := by
  rw [has, Bool.eq_iff_iff, get?_isSome_iff, decide_eq_true_iff]

/-- Sets a member: a new one goes to the end, an old one keeps its place and changes its value. -/
def insert : Members → String → Json → Members
  | [], key, value => [(key, value)]
  | (k, v) :: rest, key, value =>
    if k = key then (k, value) :: rest else (k, v) :: Members.insert rest key value

/-- The only member of an object with exactly one. -/
def single? : Members → Option (String × Json)
  | [member] => some member
  | _ => none

theorem single?_eq_none {members : Members} (h : members.length ≠ 1) : members.single? = none := by
  unfold single?
  split
  · contradiction
  · rfl

end Members

end Json

end ClauseFilter

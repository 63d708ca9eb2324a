import ClauseFilter.Compound.BoolClause

/-!
# Formulas

A formula combines texts that stand for leaf clauses. It has a text of its own, which is how the
expressions of predicates are composed, and it holds or not when it is given which of the texts in
it do.
-/

namespace ClauseFilter

/-- A Boolean combination of texts. -/
inductive Formula where
  | leaf (text : String)
  | conj (operands : List Formula)
  | disj (operands : List Formula)
  | neg (operand : Formula)
deriving Inhabited

namespace Formula

/-! ## Texts -/

/-- The text of a conjunction. A single operand needs no parentheses. -/
def conjText : List String → String
  | [] => Predicate.everything
  | [text] => text
  | texts => "(" ++ " AND ".intercalate texts ++ ")"

/-- The text of a disjunction. -/
def disjText (texts : List String) : String :=
  "(" ++ " OR ".intercalate texts ++ ")"

/-- The text of a negation. -/
def negText (text : String) : String :=
  "(NOT " ++ text ++ ")"

def text : Formula → String
  | leaf text => text
  | conj operands => conjText (operands.map text)
  | disj operands => disjText (operands.map text)
  | neg operand => negText operand.text

theorem conj_expression (ps : List Predicate) :
    (Predicate.conj ps).expression = conjText (ps.map Predicate.expression) := by
  match ps with
  | [] => rfl
  | [p] => rfl
  | _ :: _ :: _ => rfl

theorem disj_expression (ps : List Predicate) :
    (Predicate.disj ps).expression = disjText (ps.map Predicate.expression) := rfl

theorem neg_expression (p : Predicate) :
    (Predicate.neg p).expression = negText p.expression := rfl

/-! ## Meaning -/

/-- Whether a formula holds, `v` telling which texts do. -/
def Holds (v : String → Prop) : Formula → Prop
  | leaf text => v text
  | conj operands => ∀ f ∈ operands, f.Holds v
  | disj operands => ∃ (f : Formula) (_ : f ∈ operands), f.Holds v
  | neg operand => ¬ operand.Holds v

/-- Whether all texts that are combined have a property. -/
def Over (P : String → Prop) : Formula → Prop
  | leaf text => P text
  | conj operands => ∀ f ∈ operands, f.Over P
  | disj operands => ∀ f ∈ operands, f.Over P
  | neg operand => operand.Over P

variable {v P : String → Prop} {operands : List Formula}

@[simp]
theorem holds_leaf {text : String} : (leaf text).Holds v ↔ v text := by
  rw [Holds]

@[simp]
theorem holds_conj : (conj operands).Holds v ↔ ∀ f ∈ operands, f.Holds v := by
  rw [Holds]

@[simp]
theorem holds_disj : (disj operands).Holds v ↔ ∃ f ∈ operands, f.Holds v := by
  rw [Holds]
  simp only [exists_prop]

@[simp]
theorem holds_neg {operand : Formula} : (neg operand).Holds v ↔ ¬ operand.Holds v := by
  rw [Holds]

@[simp]
theorem over_leaf {text : String} : (leaf text).Over P ↔ P text := by
  rw [Over]

@[simp]
theorem over_conj : (conj operands).Over P ↔ ∀ f ∈ operands, f.Over P := by
  rw [Over]

@[simp]
theorem over_disj : (disj operands).Over P ↔ ∀ f ∈ operands, f.Over P := by
  rw [Over]

@[simp]
theorem over_neg {operand : Formula} : (neg operand).Over P ↔ operand.Over P := by
  rw [Over]

/-! ## The formula of a `bool` clause -/

/-- That one of the operands holds, if there are any. -/
def someOf : List Formula → List Formula
  | [] => []
  | operands => [disj operands]

/-- That none of the operands holds, if there are any. -/
def noneOf : List Formula → List Formula
  | [] => []
  | operands => [neg (disj operands)]

end Formula

end ClauseFilter

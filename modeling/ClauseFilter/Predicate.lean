import ClauseFilter.Json.Printer
import ClauseFilter.Json.Record

/-!
# Predicates

A predicate is the outcome of translating one clause document: a filter text, whether the text is
known to be a faithful translation, and notes on what was left out or degraded. When a clause could
not be translated the text is a placeholder and the notes say why.
-/

namespace ClauseFilter

structure Predicate where
  expression : String
  /-- Whether the expression and everything composed into it is known to be correct. -/
  translatable : Bool
  /-- Left out or degraded parts, in the order they were found. -/
  notes : List String
deriving DecidableEq

namespace Predicate

/-- A faithful translation. -/
def translated (expression : String) : Predicate :=
  ⟨expression, true, []⟩

/-- A failed translation: a placeholder and the note that names what is wrong. -/
def untranslatable (expression note : String) : Predicate :=
  ⟨expression, false, [note]⟩

/-- The same predicate with one more note at the end. -/
def withNote (p : Predicate) (note : String) : Predicate :=
  { p with notes := p.notes ++ [note] }

/-! ## Composition -/

/-- The text of the conjunction of nothing, which matches every document. -/
def everything : String :=
  "*"

/-- The expressions with a separator between them; the flags and the notes of all, in order. -/
def join (separator : String) (ps : List Predicate) : Predicate where
  expression := separator.intercalate (ps.map expression)
  translatable := ps.all translatable
  notes := ps.flatMap notes

/-- The predicate with its expression in parentheses. -/
def parenthesized (p : Predicate) : Predicate :=
  { p with expression := "(" ++ p.expression ++ ")" }

/-- A conjunction: of nothing it is `everything`, of one predicate that predicate. -/
def conj : List Predicate → Predicate
  | [] => translated everything
  | [p] => p
  | ps => (join " AND " ps).parenthesized

/-- A disjunction, parenthesized even around a single predicate. -/
def disj (ps : List Predicate) : Predicate :=
  (join " OR " ps).parenthesized

/-- A negation, with the flag and the notes of what is negated. -/
def neg (p : Predicate) : Predicate :=
  { p with expression := "(NOT " ++ p.expression ++ ")" }

/-! ## Text forms -/

/-- The whole predicate as a log shows it, with its texts as they are. -/
def display (p : Predicate) : String :=
  "(expression: " ++ p.expression ++ ", notes: [" ++ ", ".intercalate p.notes ++
    "], translatable: " ++ (if p.translatable then "true" else "false") ++ ")"

/-- The predicate as a JSON object. -/
def toJson (p : Predicate) : Json :=
  .obj [
    ("expression", .str p.expression),
    ("translatable", .bool p.translatable),
    ("notes", .arr (p.notes.map .str))]

open Json.Reader in
/-- The fields of a predicate, all of them required. -/
def shape : Shape Predicate where
  title := "struct Predicate"
  fields := [
    ⟨"expression", true, fun p => do return { p with expression := ← text "a string" }⟩,
    ⟨"translatable", true, fun p => do return { p with translatable := ← boolean }⟩,
    ⟨"notes", true, fun p => do return { p with notes := ← list (text "a string") }⟩]

/-- Reads a predicate from JSON text. -/
def parse (text : String) : Except Json.ReadError Predicate :=
  (shape.read ⟨"", false, []⟩).run text

end Predicate

end ClauseFilter

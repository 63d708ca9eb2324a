import ClauseFilter.Leaf.Translation

/-!
# Predicates of leaf clauses

A leaf clause that has no fault is either translated, without any note, or rejected with a single
note out of a fixed list (`Leaf.translate_outcome`). Its expression is never empty.
-/

namespace ClauseFilter.Leaf

/-- The notes on leaf clauses that are rejected. -/
def rejections : List String := [
  "Invalid multi_match", "Invalid simple_query_string", "\"Hard\" simple_query_string",
  "Invalid range, lack of key", "Invalid range, lack of bound", "Invalid range len",
  "Invalid term", "Invalid terms", "Invalid match", "Invalid match_phrase",
  "Invalid exists", "Invalid match_all",
  "Invalid wildcard len", "Invalid wildcard, too hard key", "Invalid wildcard, too hard query_str",
  "Invalid wildcard, easy * should be in the end of wildcard",
  "Invalid prefix len", "Invalid prefix"]

/-- The predicates that leaf clauses have. -/
inductive Outcome : Predicate → Prop
  | translated {expression : String} (ne : expression ≠ "") : Outcome (.translated expression)
  | rejected {expression note : String} (ne : expression ≠ "") (mem : note ∈ rejections) :
    Outcome (.untranslatable expression note)

/-- Whether a step that is made while a leaf is translated ends in a fault or in an `Outcome`. -/
def Settles (x : Except Fault Predicate) : Prop :=
  ∀ p, x = .ok p → Outcome p

theorem settles_ok {p : Predicate} (h : Outcome p) : Settles (.ok p) := by
  rintro q ⟨⟩
  exact h

theorem settles_bind {α : Type} {x : Except Fault α} {f : α → Except Fault Predicate}
    (h : ∀ a, Settles (f a)) : Settles (x >>= f) := by
  intro p hp
  obtain ⟨a, -, ha⟩ := ok_of_bind hp
  exact h a p ha

theorem settles_translated {expression : String} (ne : expression ≠ "") :
    Settles (.ok (.translated expression)) :=
  settles_ok (.translated ne)

theorem settles_rejected {expression note : String} (ne : expression ≠ "")
    (mem : note ∈ rejections) : Settles (.ok (.untranslatable expression note)) :=
  settles_ok (.rejected ne mem)

variable (body : Json)

/-! ## Searches -/

theorem settles_multiMatch : Settles (Search.translateMultiMatch body) := by
  refine settles_bind fun members => ?_
  extract_lets supported
  split
  · exact settles_bind fun query => settles_translated (by simp)
  · exact settles_rejected (by simp) (by decide)

theorem settles_queryString : Settles (Search.translateQueryString body) :=
  settles_bind fun _ => settles_bind fun _ => settles_translated (by simp)

theorem outcome_easy (query : String) (fields : List String) (lenient : Bool) :
    Outcome (Search.easy query fields lenient) := by
  have hall : Outcome (.translated ("all_fields " ++ query)) := .translated (by simp)
  have hhard : Outcome (.untranslatable "\"hard\" simple_query_string not supported"
      "\"Hard\" simple_query_string") := .rejected (by simp) (by decide)
  match fields with
  | [] => exact hall
  | [field] =>
    dsimp only [Search.easy]
    split
    · exact .translated (by simp)
    · split
      · exact hall
      · exact hhard
  | _ :: _ :: _ => exact hhard

theorem settles_keyed (members : Json.Members) : Settles (Search.translateKeyed members) := by
  refine settles_bind fun _ => settles_bind fun query => settles_bind fun _ =>
    settles_bind fun items => settles_bind fun fields => ?_
  split
  · split
    · exact settles_rejected (by simp) (by decide)
    · split
      · exact settles_rejected (by simp) (by decide)
      · exact settles_ok (outcome_easy query fields true)
  · exact settles_ok (outcome_easy query fields false)

theorem settles_simple : Settles (Search.translateSimple body) := by
  refine settles_bind fun members => ?_
  split
  · exact settles_rejected (by simp) (by decide)
  · split
    · exact settles_rejected (by simp) (by decide)
    · exact settles_keyed members

/-! ## Single fields -/

theorem settles_comparison (c : Comparison) (ne : c.oneField ≠ "") (mem : c.invalid ∈ rejections) :
    Settles (c.translate body) := by
  refine settles_bind fun members => ?_
  split
  · exact settles_rejected ne mem
  · split
    · exact settles_rejected (by simp) mem
    · exact settles_translated (by simp)

theorem settles_range : Settles (Range.translate body) := by
  refine settles_bind fun members => ?_
  split
  · exact settles_rejected (by simp) (by decide)
  · refine settles_bind fun given => ?_
    split
    · exact settles_rejected (by simp) (by decide)
    · exact settles_translated (by simp)
  · exact settles_rejected (by simp) (by decide)

theorem settles_existence : Settles (translateExistence body) := by
  refine settles_bind fun members => ?_
  split
  · exact settles_bind fun field => settles_translated (by simp)
  · exact settles_rejected (by simp) (by decide)

theorem settles_matchAll : Settles (translateMatchAll body) := by
  refine settles_bind fun members => ?_
  split
  · exact settles_translated (by simp)
  · exact settles_rejected (by simp) (by decide)

/-! ## Patterns -/

theorem settles_like (field start : String) : Settles (.ok (Pattern.like field start)) :=
  settles_translated (by simp)

theorem settles_wildcard : Settles (Pattern.translateWildcard body) := by
  refine settles_bind fun members => ?_
  split
  · exact settles_rejected (by simp) (by decide)
  · refine settles_bind fun pattern => ?_
    split
    · exact settles_rejected (by simp) (by decide)
    · split
      · exact settles_rejected (by simp) (by decide)
      · split
        · exact settles_like _ _
        · exact settles_rejected (by simp) (by decide)

theorem settles_prefix : Settles (Pattern.translatePrefix body) := by
  refine settles_bind fun members => ?_
  split
  · exact settles_rejected (by simp) (by decide)
  · split
    · exact settles_bind fun start => settles_like _ start
    · exact settles_rejected (by simp) (by decide)

/-- A leaf clause without a fault is translated, or rejected with a note on it. -/
theorem translate_outcome {l : Leaf} {p : Predicate} (h : l.translate body = .ok p) :
    Outcome p := by
  refine (?_ : Settles (l.translate body)) p h
  cases l with
  | multiMatch => exact settles_multiMatch body
  | range => exact settles_range body
  | term => exact settles_comparison body .term (by decide) (by decide)
  | terms => exact settles_comparison body .terms (by decide) (by decide)
  | matching => exact settles_comparison body .matching (by decide) (by decide)
  | matchPhrase => exact settles_comparison body .matchPhrase (by decide) (by decide)
  | existence => exact settles_existence body
  | simpleQueryString => exact settles_simple body
  | matchAll => exact settles_matchAll body
  | wildcard => exact settles_wildcard body
  | beginning => exact settles_prefix body
  | queryString => exact settles_queryString body

end ClauseFilter.Leaf

import ClauseFilter.Proofs.Formula
import Mathlib.Logic.Basic

/-!
# Unique reading of expressions

The expression of a composed predicate tells how it is composed. Where the texts that are combined
have neither parentheses nor connectives in them, formulas with the same text are the same but for
conjunctions of a single operand, which are written as this operand (`Tree.formula_unique`). The
reason is that no text of a formula, followed by something that can come after an operand, is the
front of another such text (`Normal.textUnique`).
-/

namespace ClauseFilter

namespace Formula

/-! ## Formulas without conjunctions of one operand -/

/-- The conjunction of formulas, a single one standing for itself. -/
def conjOf : List Formula → Formula
  | [operand] => operand
  | operands => conj operands

/-- The formula with the operand in place of every conjunction of one operand. -/
def plain : Formula → Formula
  | leaf text => leaf text
  | conj operands => conjOf (operands.map plain)
  | disj operands => disj (operands.map plain)
  | neg operand => neg operand.plain

theorem conjOf_text (operands : List Formula) : (conjOf operands).text = (conj operands).text := by
  match operands with
  | [] => rfl
  | [operand] => simp [conjOf, text, conjText]
  | _ :: _ :: _ => rfl

theorem conjOf_holds {v : String → Prop} (operands : List Formula) :
    (conjOf operands).Holds v ↔ (conj operands).Holds v := by
  match operands with
  | [] => rfl
  | [operand] => simp [conjOf]
  | _ :: _ :: _ => rfl

/-- The words of a text, which are told apart by spaces. -/
def words (text : String) : List String :=
  (text.toList.splitOn ' ').map String.ofList

/-- Texts that are combined without being mistaken for combinations. -/
structure IsAtom (text : String) : Prop where
  ne_empty : text ≠ ""
  ne_everything : text ≠ Predicate.everything
  no_parenthesis : '(' ∉ text.toList ∧ ')' ∉ text.toList
  no_connective : ∀ word ∈ words text, word ∉ ["AND", "OR", "NOT"]

/-- Formulas over such texts, without disjunctions of nothing. -/
inductive Readable : Formula → Prop
  | leaf {text : String} (h : IsAtom text) : Readable (leaf text)
  | conj {operands : List Formula} (h : ∀ f ∈ operands, Readable f) : Readable (conj operands)
  | disj {operands : List Formula} (ne : operands ≠ []) (h : ∀ f ∈ operands, Readable f) :
    Readable (disj operands)
  | neg {operand : Formula} (h : Readable operand) : Readable (neg operand)

/-- A conjunction of several operands or a disjunction, with its connective and its operands. -/
inductive Joins : Formula → List Char → List Formula → Prop
  | conj (f g : Formula) (rest : List Formula) :
    Joins (conj (f :: g :: rest)) "AND".toList (f :: g :: rest)
  | disj (f : Formula) (rest : List Formula) : Joins (disj (f :: rest)) "OR".toList (f :: rest)

/-- Readable formulas in which no conjunction has a single operand. -/
inductive Normal : Formula → Prop
  | leaf {text : String} (h : IsAtom text) : Normal (leaf text)
  | everything : Normal (conj [])
  | joins {f : Formula} {connective : List Char} {operands : List Formula}
    (hf : Joins f connective operands) (h : ∀ g ∈ operands, Normal g) : Normal f
  | neg {operand : Formula} (h : Normal operand) : Normal (neg operand)

theorem normal_conjOf {operands : List Formula} (h : ∀ f ∈ operands, Normal f) :
    Normal (conjOf operands) := by
  match operands with
  | [] => exact .everything
  | [operand] => exact h operand List.mem_cons_self
  | f :: g :: rest => exact .joins (.conj f g rest) h

namespace Readable

variable {f : Formula}

theorem plain_normal (h : f.Readable) : f.plain.Normal := by
  induction h with
  | leaf h =>
    rw [plain]
    exact .leaf h
  | conj h ih =>
    rw [plain]
    exact normal_conjOf (List.forall_mem_map.2 ih)
  | @disj operands ne h ih =>
    rw [plain]
    obtain ⟨f, rest, rfl⟩ := List.exists_cons_of_ne_nil ne
    exact .joins (.disj f.plain (rest.map plain)) (List.forall_mem_map.2 ih)
  | neg h ih =>
    rw [plain]
    exact .neg ih

theorem plain_text (h : f.Readable) : f.plain.text = f.text := by
  induction h with
  | leaf h => rw [plain]
  | conj h ih =>
    rw [plain, conjOf_text, text, text, List.map_map]
    exact congrArg conjText (List.map_congr_left ih)
  | disj ne h ih =>
    rw [plain, text, text, List.map_map]
    exact congrArg disjText (List.map_congr_left ih)
  | neg h ih => rw [plain, text, text, ih]

theorem plain_holds {v : String → Prop} (h : f.Readable) : f.plain.Holds v ↔ f.Holds v := by
  induction h with
  | leaf h => rw [plain]
  | conj h ih =>
    rw [plain, conjOf_holds, holds_conj, holds_conj, List.forall_mem_map]
    exact forall₂_congr ih
  | disj ne h ih =>
    rw [plain, holds_disj, holds_disj]
    simp only [List.mem_map, exists_exists_and_eq_and]
    exact exists_congr fun f => and_congr_right (ih f)
  | neg h ih => rw [plain, holds_neg, holds_neg, ih]

end Readable

/-! ## Texts and what comes after them -/

/-- The words that combine formulas. -/
def connectives : List (List Char) :=
  ["AND".toList, "OR".toList]

/-- The words that no text of an operand has among its own. -/
def keywords : List (List Char) :=
  "NOT".toList :: connectives

/-- A text that can stand between brackets and connectives without being mistaken for them. -/
structure IsWord (text : List Char) : Prop where
  ne_nil : text ≠ []
  no_parenthesis : '(' ∉ text ∧ ')' ∉ text
  no_keyword : ∀ word ∈ text.splitOn ' ', word ∉ keywords

theorem IsAtom.isWord {text : String} (h : IsAtom text) : IsWord text.toList where
  ne_nil hnil := h.ne_empty (String.toList_inj.1 hnil)
  no_parenthesis := h.no_parenthesis
  no_keyword word hmem hkey := by
    have hword := h.no_connective (String.ofList word) (List.mem_map_of_mem hmem)
    simp only [keywords, connectives, List.mem_cons, List.not_mem_nil, or_false] at hkey
    rcases hkey with rfl | rfl | rfl
    all_goals exact hword (by decide)

theorem isWord_everything : IsWord Predicate.everything.toList :=
  ⟨by decide, by decide, by decide⟩

/-- What can come after an operand: nothing, a closing parenthesis, or a connective. -/
inductive Ends : List Char → Prop
  | nil : Ends []
  | close (rest : List Char) : Ends (')' :: rest)
  | connective {word : List Char} (mem : word ∈ connectives) (rest : List Char) :
    Ends (' ' :: (word ++ ' ' :: rest))

/-- Nothing, or a text that starts with a space. -/
def Breaks (text : List Char) : Prop :=
  text = [] ∨ ∃ rest, text = ' ' :: rest

theorem not_mem_keyword : ∀ word ∈ keywords, ' ' ∉ word ∧ ')' ∉ word := by
  decide

theorem mem_splitOn_append {word rest : List Char} (hword : ' ' ∉ word) (hrest : Breaks rest) :
    word ∈ (word ++ rest).splitOn ' ' := by
  rcases hrest with rfl | ⟨more, rfl⟩
  · rw [List.append_nil, List.splitOn_eq_singleton hword]
    exact List.mem_singleton_self word
  · rw [List.splitOn_append_cons_self_of_not_mem hword]
    exact List.mem_cons_self

/-- Where a text and its end begin with a keyword and a space, the text alone has the keyword for
its first word. -/
theorem Ends.exists_eq_append {text rest word after : List Char} (hrest : Ends rest)
    (hword : word ∈ keywords) (h : text ++ rest = word ++ ' ' :: after) :
    ∃ more, text = word ++ more ∧ Breaks more := by
  obtain ⟨hspace, hclose⟩ := not_mem_keyword word hword
  obtain ⟨left, rfl, hleft⟩ | ⟨more, rfl, hmore⟩ := List.append_eq_append_iff.1 h
  · cases left with
    | nil => exact ⟨[], by simp, .inl rfl⟩
    | cons c left =>
      -- the end would start within the word, which has no such character
      cases hrest with
      | nil => simp at hleft
      | close =>
        obtain rfl : ')' = c := (List.cons.inj hleft).1
        simp at hclose
      | connective =>
        obtain rfl : ' ' = c := (List.cons.inj hleft).1
        simp at hspace
  · cases more with
    | nil => exact ⟨[], rfl, .inl rfl⟩
    | cons c more =>
      obtain rfl : ' ' = c := (List.cons.inj hmore).1
      exact ⟨' ' :: more, rfl, .inr ⟨more, rfl⟩⟩

namespace IsWord

variable {w w' rest rest' : List Char}

theorem ne_keyword_append {word : List Char} (hw : IsWord w) (hword : word ∈ keywords)
    (hrest : Breaks rest) : w ≠ word ++ rest := by
  rintro rfl
  exact hw.no_keyword word (mem_splitOn_append (not_mem_keyword word hword).1 hrest) hword

theorem ne_append_keyword_append {word : List Char} (hw : IsWord w) (hword : word ∈ keywords)
    (hrest : Breaks rest) : w ≠ w' ++ ' ' :: (word ++ rest) := by
  rintro rfl
  refine hw.no_keyword word ?_ hword
  rw [List.splitOn_append_cons_self]
  exact List.mem_append_right _ (mem_splitOn_append (not_mem_keyword word hword).1 hrest)

theorem append_ne_open (hw : IsWord w) : w ++ rest ≠ '(' :: rest' := by
  intro h
  obtain ⟨c, more, rfl⟩ := List.exists_cons_of_ne_nil hw.ne_nil
  obtain rfl : c = '(' := (List.cons.inj h).1
  exact hw.no_parenthesis.1 List.mem_cons_self

/-- A word does not go on into what can come after an operand. -/
theorem eq_nil_of_append {more : List Char} (hw : IsWord (w ++ more)) (hrest : Ends rest)
    (hrest' : Ends rest') (h : rest = more ++ rest') : more = [] := by
  cases more with
  | nil => rfl
  | cons c more =>
    exfalso
    cases hrest with
    | nil => simp at h
    | close =>
      obtain rfl : ')' = c := (List.cons.inj h).1
      exact hw.no_parenthesis.2 (by simp)
    | connective mem =>
      obtain ⟨rfl, htail⟩ := List.cons.inj h
      have hkey := List.mem_cons_of_mem "NOT".toList mem
      obtain ⟨back, rfl, hback⟩ := hrest'.exists_eq_append hkey htail.symm
      exact hw.ne_append_keyword_append hkey hback rfl

/-- Words with something after them that can come after an operand are compared word by word. -/
theorem append_inj (hw : IsWord w) (hw' : IsWord w') (hrest : Ends rest) (hrest' : Ends rest')
    (h : w ++ rest = w' ++ rest') : w = w' ∧ rest = rest' := by
  obtain ⟨more, rfl, hmore⟩ | ⟨more, rfl, hmore⟩ := List.append_eq_append_iff.1 h
  · obtain rfl := hw'.eq_nil_of_append hrest hrest' hmore
    exact ⟨(List.append_nil w).symm, hmore⟩
  · obtain rfl := hw.eq_nil_of_append hrest' hrest hmore
    exact ⟨List.append_nil w', hmore.symm⟩

end IsWord

/-! ## Operands -/

/-- The operands of a list of formulas after the first, each after a connective, up to the closing
parenthesis and what comes after it. -/
def operandsAfter (connective rest : List Char) : List Formula → List Char
  | [] => ')' :: rest
  | f :: operands =>
    ' ' :: (connective ++ ' ' :: (f.text.toList ++ operandsAfter connective rest operands))

theorem ends_operandsAfter {connective : List Char} (mem : connective ∈ connectives)
    (rest : List Char) (operands : List Formula) :
    Ends (operandsAfter connective rest operands) := by
  cases operands with
  | nil => exact .close rest
  | cons f operands => exact .connective mem _

theorem intercalate_append (connective rest : List Char) (f : Formula) (operands : List Formula) :
    (' ' :: (connective ++ [' '])).intercalate ((f :: operands).map fun g => g.text.toList) ++
        ')' :: rest =
      f.text.toList ++ operandsAfter connective rest operands := by
  induction operands generalizing f with
  | nil => simp [operandsAfter]
  | cons g operands ih =>
    have hg := ih g
    rw [List.map_cons] at hg ⊢
    rw [List.map_cons, List.intercalate_cons_cons, operandsAfter, List.append_assoc, hg]
    simp

theorem parenthesized_append {separator : String} {connective : List Char}
    (hsep : separator.toList = ' ' :: (connective ++ [' '])) (rest : List Char) (f : Formula)
    (operands : List Formula) :
    ("(" ++ separator.intercalate ((f :: operands).map text) ++ ")").toList ++ rest =
      '(' :: (f.text.toList ++ operandsAfter connective rest operands) := by
  rw [← intercalate_append, String.toList_append, String.toList_append,
    String.toList_intercalate, List.map_map, hsep]
  simp [Function.comp_def]

theorem negText_append (f : Formula) (rest : List Char) :
    (neg f).text.toList ++ rest =
      '(' :: ("NOT".toList ++ ' ' :: (f.text.toList ++ ')' :: rest)) := by
  rw [text, negText, String.toList_append, String.toList_append]
  simp

namespace Joins

variable {f f' : Formula} {connective connective' : List Char} {operands operands' : List Formula}

theorem mem_connectives (h : Joins f connective operands) : connective ∈ connectives := by
  cases h <;> decide

theorem text_append (h : Joins f connective operands) (rest : List Char) :
    ∃ g more, operands = g :: more ∧ f.text.toList ++ rest =
      '(' :: (g.text.toList ++ operandsAfter connective rest more) := by
  cases h with
  | conj f g more =>
    refine ⟨f, g :: more, rfl, ?_⟩
    rw [text]
    exact parenthesized_append (by decide) rest f (g :: more)
  | disj f more =>
    refine ⟨f, more, rfl, ?_⟩
    rw [text]
    exact parenthesized_append (by decide) rest f more

/-- The operands and, where there are several, the connective tell what is joined. -/
theorem unique (h : Joins f connective operands) (h' : Joins f' connective' operands)
    (hc : operands.tail ≠ [] → connective = connective') : f = f' := by
  cases h with
  | conj f g more =>
    cases h' with
    | conj => rfl
    | disj => exact absurd (hc (by simp)) (by decide)
  | disj f more =>
    cases h' with
    | conj => exact absurd (hc (by simp)) (by decide)
    | disj => rfl

end Joins

/-! ## Formulas with the same text -/

/-- Whether a formula and what comes after it can be told from the text of both. -/
def TextUnique (f : Formula) : Prop :=
  ∀ ⦃g : Formula⦄ ⦃rest rest' : List Char⦄, g.Normal → Ends rest → Ends rest' →
    f.text.toList ++ rest = g.text.toList ++ rest' → f = g ∧ rest = rest'

theorem connective_append_inj {c c' rest rest' : List Char} (hc : c ∈ connectives)
    (hc' : c' ∈ connectives) (h : c ++ ' ' :: rest = c' ++ ' ' :: rest') :
    c = c' ∧ rest = rest' := by
  simp only [connectives, List.mem_cons, List.not_mem_nil, or_false] at hc hc'
  rcases hc with rfl | rfl <;> rcases hc' with rfl | rfl <;> simp_all

/-- Lists of operands after the first one are compared operand by operand. -/
theorem operandsAfter_inj {c c' rest rest' : List Char} {fs gs : List Formula}
    (hc : c ∈ connectives) (hc' : c' ∈ connectives) (hf : ∀ f ∈ fs, f.TextUnique)
    (hg : ∀ g ∈ gs, g.Normal) (h : operandsAfter c rest fs = operandsAfter c' rest' gs) :
    fs = gs ∧ rest = rest' ∧ (fs ≠ [] → c = c') := by
  induction fs generalizing gs with
  | nil =>
    cases gs with
    | nil => exact ⟨rfl, (List.cons.inj h).2, fun hne => absurd rfl hne⟩
    | cons g gs => simp [operandsAfter] at h
  | cons f fs ih =>
    cases gs with
    | nil => simp [operandsAfter] at h
    | cons g gs =>
      obtain ⟨hf, hfs⟩ := List.forall_mem_cons.1 hf
      obtain ⟨hg, hgs⟩ := List.forall_mem_cons.1 hg
      obtain ⟨rfl, htexts⟩ := connective_append_inj hc hc' (List.cons.inj h).2
      obtain ⟨rfl, hafter⟩ := hf hg (ends_operandsAfter hc rest fs)
        (ends_operandsAfter hc rest' gs) htexts
      obtain ⟨rfl, rfl, -⟩ := ih hfs hgs hafter
      exact ⟨rfl, rfl, fun _ => rfl⟩

namespace Normal

variable {f g : Formula} {rest rest' : List Char}

theorem isWord_leaf {a : String} (h : IsAtom a) : IsWord (Formula.leaf a).text.toList := by
  rw [text]
  exact h.isWord

theorem isWord_conj_nil : IsWord (conj []).text.toList := by
  simpa [text, conjText] using isWord_everything

/-- The text of a formula either is a word or starts with a parenthesis. -/
theorem isWord_or_open (h : f.Normal) :
    IsWord f.text.toList ∨ ∀ rest, ∃ after, f.text.toList ++ rest = '(' :: after := by
  cases h with
  | leaf h => exact .inl (isWord_leaf h)
  | everything => exact .inl isWord_conj_nil
  | joins hf h =>
    refine .inr fun rest => ?_
    obtain ⟨g, more, -, heq⟩ := hf.text_append rest
    exact ⟨_, heq⟩
  | neg h => exact .inr fun rest => ⟨_, negText_append _ rest⟩

/-- No operand starts with the word of a negation. -/
theorem append_ne_not (h : f.Normal) (hrest : Ends rest) :
    f.text.toList ++ rest ≠ "NOT".toList ++ ' ' :: rest' := by
  intro heq
  obtain hword | hopen := h.isWord_or_open
  · have hkey : "NOT".toList ∈ keywords := List.mem_cons_self
    obtain ⟨more, htext, hmore⟩ := hrest.exists_eq_append hkey heq
    exact hword.ne_keyword_append hkey hmore htext
  · obtain ⟨after, hafter⟩ := hopen rest
    rw [hafter] at heq
    simp at heq

/-- A formula whose text is a word is a leaf or the conjunction of nothing. -/
theorem eq_of_isWord (h : f.Normal) (hword : IsWord f.text.toList) :
    (∃ text, IsAtom text ∧ f = .leaf text) ∨ f = conj [] := by
  cases h with
  | leaf h => exact .inl ⟨_, h, rfl⟩
  | everything => exact .inr rfl
  | joins hf h =>
    obtain ⟨g, more, -, heq⟩ := hf.text_append []
    exact absurd heq hword.append_ne_open
  | neg h => exact absurd (negText_append _ []) hword.append_ne_open

theorem textUnique_of_isWord (h : f.Normal) (hword : IsWord f.text.toList) : f.TextUnique := by
  intro g rest rest' hg hrest hrest' heq
  obtain hword' | hopen := hg.isWord_or_open
  · obtain ⟨htext, rfl⟩ := hword.append_inj hword' hrest hrest' heq
    refine ⟨?_, rfl⟩
    have htext := String.toList_inj.1 htext
    obtain ⟨a, ha, rfl⟩ | rfl := h.eq_of_isWord hword
    · obtain ⟨b, hb, rfl⟩ | rfl := hg.eq_of_isWord hword'
      · simpa [text] using htext
      · exact absurd (by simpa [text, conjText] using htext) ha.ne_everything
    · obtain ⟨b, hb, rfl⟩ | rfl := hg.eq_of_isWord hword'
      · exact absurd (by simpa [text, conjText] using htext.symm) hb.ne_everything
      · rfl
  · obtain ⟨after, hafter⟩ := hopen rest'
    exact absurd (heq.trans hafter) hword.append_ne_open

theorem textUnique_of_joins {connective : List Char} {operands : List Formula}
    (hf : Joins f connective operands) (hall : ∀ g ∈ operands, g.Normal)
    (ih : ∀ g ∈ operands, g.TextUnique) : f.TextUnique := by
  intro g rest rest' hg hrest hrest' heq
  obtain ⟨first, more, rfl, htext⟩ := hf.text_append rest
  obtain ⟨hfirst, hmore⟩ := List.forall_mem_cons.1 ih
  have hends := ends_operandsAfter hf.mem_connectives rest more
  rw [htext] at heq
  cases hg with
  | leaf ha => exact absurd heq.symm (isWord_leaf ha).append_ne_open
  | everything => exact absurd heq.symm isWord_conj_nil.append_ne_open
  | joins hg hall' =>
    obtain ⟨first', more', rfl, htext'⟩ := hg.text_append rest'
    obtain ⟨hfirst', hmore'⟩ := List.forall_mem_cons.1 hall'
    rw [htext'] at heq
    obtain ⟨rfl, hafter⟩ := hfirst hfirst' hends
      (ends_operandsAfter hg.mem_connectives rest' more') (List.cons.inj heq).2
    obtain ⟨rfl, rfl, hc⟩ :=
      operandsAfter_inj hf.mem_connectives hg.mem_connectives hmore hmore' hafter
    exact ⟨hf.unique hg hc, rfl⟩
  | neg hg =>
    rw [negText_append] at heq
    exact absurd (List.cons.inj heq).2
      ((hall first List.mem_cons_self).append_ne_not hends)

theorem textUnique_of_neg (ih : f.TextUnique) : (Formula.neg f).TextUnique := by
  intro g rest rest' hg hrest hrest' heq
  rw [negText_append] at heq
  cases hg with
  | leaf ha => exact absurd heq.symm (isWord_leaf ha).append_ne_open
  | everything => exact absurd heq.symm isWord_conj_nil.append_ne_open
  | joins hg hall =>
    obtain ⟨first, more, rfl, htext⟩ := hg.text_append rest'
    rw [htext] at heq
    exact absurd (List.cons.inj heq).2.symm ((hall first List.mem_cons_self).append_ne_not
      (ends_operandsAfter hg.mem_connectives rest' more))
  | neg hg =>
    rw [negText_append] at heq
    have hoperands := List.append_cancel_left (List.cons.inj heq).2
    obtain ⟨rfl, hclose⟩ := ih hg (.close rest) (.close rest') (List.cons.inj hoperands).2
    exact ⟨rfl, (List.cons.inj hclose).2⟩

theorem textUnique (h : f.Normal) : f.TextUnique := by
  induction h with
  | leaf ha => exact textUnique_of_isWord (.leaf ha) (isWord_leaf ha)
  | everything => exact textUnique_of_isWord .everything isWord_conj_nil
  | joins hf hall ih => exact textUnique_of_joins hf hall ih
  | neg h ih => exact textUnique_of_neg ih

end Normal

/-- Readable formulas with the same text are the same but for conjunctions of one operand. -/
theorem Readable.plain_eq {f g : Formula} (hf : f.Readable) (hg : g.Readable)
    (h : f.text = g.text) : f.plain = g.plain := by
  have htext : f.plain.text.toList ++ [] = g.plain.text.toList ++ [] := by
    rw [hf.plain_text, hg.plain_text, h]
  exact (hf.plain_normal.textUnique hg.plain_normal .nil .nil htext).1

end Formula

/-! ## Predicates -/

/-- How a predicate is composed of others. -/
inductive Predicate.Tree where
  | atom (p : Predicate)
  | conj (operands : List Predicate.Tree)
  | disj (operands : List Predicate.Tree)
  | neg (operand : Predicate.Tree)

namespace Predicate.Tree

/-- The composed predicate. -/
def predicate : Tree → Predicate
  | atom p => p
  | conj operands => Predicate.conj (operands.map predicate)
  | disj operands => Predicate.disj (operands.map predicate)
  | neg operand => Predicate.neg operand.predicate

/-- The formula that combines the expressions of the predicates in the same way. -/
def formula : Tree → Formula
  | atom p => .leaf p.expression
  | conj operands => .conj (operands.map formula)
  | disj operands => .disj (operands.map formula)
  | neg operand => .neg operand.formula

theorem expression_eq (t : Tree) : t.predicate.expression = t.formula.text := by
  induction t using predicate.induct with
  | case1 p => rw [predicate, formula, Formula.text]
  | case2 operands ih =>
    rw [predicate, formula, Formula.text, Formula.conj_expression, List.map_map, List.map_map]
    exact congrArg Formula.conjText (List.map_congr_left ih)
  | case3 operands ih =>
    rw [predicate, formula, Formula.text, Formula.disj_expression, List.map_map, List.map_map]
    exact congrArg Formula.disjText (List.map_congr_left ih)
  | case4 operand ih => rw [predicate, formula, Formula.text, Formula.neg_expression, ih]

/-- The expression of a composed predicate is unambiguous: predicates with the same expression are
composed alike but for conjunctions of one operand, and say the same whichever of the texts in them
hold. -/
theorem formula_unique {t u : Tree} (ht : t.formula.Readable) (hu : u.formula.Readable)
    (h : t.predicate.expression = u.predicate.expression) :
    t.formula.plain = u.formula.plain ∧ ∀ v, t.formula.Holds v ↔ u.formula.Holds v := by
  rw [expression_eq, expression_eq] at h
  have hplain := ht.plain_eq hu h
  refine ⟨hplain, fun v => ?_⟩
  rw [← ht.plain_holds, hplain, hu.plain_holds]

/-- A disjunction whose second operand is a conjunction of one negation: the expression of the
predicate is that of the disjunction with the negation itself. -/
theorem formula_unique_oneOperand :
    let a := Tree.atom (.translated "status = active")
    let b := Tree.atom (.translated "host like web%")
    let t := Tree.disj [a, .conj [.neg b]]
    let u := Tree.disj [a, .neg b]
    t.formula.Readable ∧ u.formula.Readable ∧ t.predicate.expression = u.predicate.expression ∧
      t.formula.plain = u.formula.plain ∧ ∀ v, t.formula.Holds v ↔ u.formula.Holds v := by
  intro a b t u
  have ha : Formula.IsAtom "status = active" := ⟨by decide, by decide, by decide, by decide⟩
  have hb : Formula.IsAtom "host like web%" := ⟨by decide, by decide, by decide, by decide⟩
  have hnot : (Formula.neg (.leaf "host like web%")).Readable := .neg (.leaf hb)
  have ht : t.formula.Readable := by
    simp only [t, a, b, formula, List.map_cons, List.map_nil, translated]
    refine .disj (List.cons_ne_nil _ _) (List.forall_mem_cons.2 ⟨.leaf ha, ?_⟩)
    exact List.forall_mem_singleton.2 (.conj (List.forall_mem_singleton.2 hnot))
  have hu : u.formula.Readable := by
    simp only [u, a, b, formula, List.map_cons, List.map_nil, translated]
    refine .disj (List.cons_ne_nil _ _) (List.forall_mem_cons.2 ⟨.leaf ha, ?_⟩)
    exact List.forall_mem_singleton.2 hnot
  have htext : t.predicate.expression = u.predicate.expression := by
    simp only [t, u, a, b, predicate, List.map_cons, List.map_nil, Predicate.conj]
  exact ⟨ht, hu, htext, formula_unique ht hu htext⟩

end Predicate.Tree

end ClauseFilter

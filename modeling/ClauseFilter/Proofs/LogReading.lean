import ClauseFilter.Proofs.Layouts
import ClauseFilter.QueryLog

/-!
# Reading a log back

A log is the texts of its records, one after the other. One decoder gets back from it what each
record tells: the verdict, the rest of the first line, the line of the predicate and the text of the
document (`decode_join`). It can do so because a document ends at the first empty line, and no
document starts as a record does.
-/

namespace ClauseFilter.QueryLog

/-! ## Records and what they tell -/

/-- A query that is recorded, and how it was translated. -/
structure Record where
  index : String
  method : String
  destination : Destination
  document : Json
  predicate : Predicate

/-- What the text of a record tells. -/
structure Recorded where
  /-- Whether the verdict is that the translation is faithful. -/
  faithful : Bool
  /-- The rest of the first line. -/
  title : String
  predicateLine : Option String
  documentText : Option String
deriving DecidableEq

namespace Record

def text (r : Record) : String :=
  recordText r.index r.method r.destination r.document r.predicate

/-- Whether the record holds the document. -/
def holdsDocument (r : Record) : Bool :=
  !r.predicate.translatable || r.destination == .user

def recorded (r : Record) : Recorded where
  faithful := r.predicate.translatable
  title := r.index ++ " " ++ r.method
  predicateLine := if r.predicate.translatable then none else some r.predicate.display
  documentText := if r.holdsDocument then some r.document.pretty else none

/-- Whether what is shown on single lines has no newline in it. -/
structure Unbroken (r : Record) : Prop where
  index : '\n' ∉ r.index.toList
  method : '\n' ∉ r.method.toList
  predicate : '\n' ∉ r.predicate.display.toList

end Record

/-! ## The decoder -/

/-- The verdicts that a record can start with. -/
def pass : List Char := ['P', 'A', 'S', 'S', ':', ' ']

def fail : List Char := ['F', 'A', 'I', 'L', ':', ' ']

/-- Whether a text starts as a record does. -/
def startsRecord (text : List Char) : Bool :=
  pass.isPrefixOf text || fail.isPrefixOf text

/-- The first line of a text, and what comes after it. -/
def splitLine (text : List Char) : List Char × List Char :=
  (text.takeWhile (· ≠ '\n'), (text.dropWhile (· ≠ '\n')).tail)

/-- The lines of a text up to the first empty one, and what comes after that. -/
def splitParagraph : List Char → List Char × List Char
  | [] => ([], [])
  | '\n' :: '\n' :: rest => ([], rest)
  | c :: rest => (c :: (splitParagraph rest).1, (splitParagraph rest).2)

/-- What the first record of a text tells, and what comes after that record. -/
def decodeRecord (text : List Char) : Recorded × List Char :=
  let (line, rest) := splitLine text
  let title := String.ofList (line.drop pass.length)
  if pass.isPrefixOf line then
    if rest.isEmpty || startsRecord rest then (⟨true, title, none, none⟩, rest)
    else
      let (document, rest) := splitParagraph rest
      (⟨true, title, none, some (String.ofList document)⟩, rest)
  else
    let (predicateLine, rest) := splitLine rest
    let (document, rest) := splitParagraph rest
    (⟨false, title, some (String.ofList predicateLine), some (String.ofList document)⟩, rest)

theorem length_splitLine_le (text : List Char) : (splitLine text).2.length ≤ text.length - 1 := by
  have h := (List.dropWhile_sublist (fun c => decide (c ≠ '\n')) (l := text)).length_le
  simp only [splitLine, List.length_tail]
  omega

theorem length_splitParagraph_le (text : List Char) :
    (splitParagraph text).2.length ≤ text.length := by
  induction text using splitParagraph.induct with
  | case1 => exact Nat.le_refl 0
  | case2 rest => simp only [splitParagraph, List.length_cons]; omega
  | case3 c rest hblank ih =>
    rw [splitParagraph]
    · exact Nat.le_succ_of_le ih
    · exact hblank

theorem length_decodeRecord_lt (c : Char) (text : List Char) :
    (decodeRecord (c :: text)).2.length < (c :: text).length := by
  have hline := length_splitLine_le (c :: text)
  have hline' := length_splitLine_le (splitLine (c :: text)).2
  have hdocument := length_splitParagraph_le (splitLine (c :: text)).2
  have hdocument' := length_splitParagraph_le (splitLine (splitLine (c :: text)).2).2
  rw [List.length_cons] at hline ⊢
  unfold decodeRecord
  dsimp only
  split
  · split
    · dsimp only
      omega
    · dsimp only
      omega
  · dsimp only
    omega

/-- What the records of a text tell, in order. -/
def decodeRecords (text : List Char) : List Recorded :=
  match text with
  | [] => []
  | c :: rest =>
    let first := decodeRecord (c :: rest)
    first.1 :: decodeRecords first.2
termination_by text.length
decreasing_by exact length_decodeRecord_lt c rest

/-- What the records of a log tell, in order. -/
def decode (log : String) : List Recorded :=
  decodeRecords log.toList

/-! ## Parts of a record -/

theorem splitLine_append {line : List Char} (h : '\n' ∉ line) (rest : List Char) :
    splitLine (line ++ '\n' :: rest) = (line, rest) := by
  have hline : ∀ c ∈ line, decide (c ≠ '\n') = true := by
    intro c hc
    rw [decide_eq_true_iff]
    rintro rfl
    exact h hc
  rw [splitLine, List.takeWhile_append_of_pos hline, List.dropWhile_append_of_pos hline]
  simp

theorem splitParagraph_append {paragraph : List Char} (h : Json.Indented paragraph)
    (rest : List Char) :
    splitParagraph (paragraph ++ '\n' :: '\n' :: rest) = (paragraph, rest) := by
  induction h with
  | nil => rfl
  | char hc h ih =>
    rw [List.cons_append, splitParagraph, ih]
    intro after heq
    exact absurd heq hc
  | @newline c more hc h ih =>
    rw [List.cons_append, List.cons_append, splitParagraph]
    · rw [← List.cons_append, ih]
    · rintro after - heq
      obtain rfl : c = '\n' := (List.cons.inj heq).1
      contradiction

/-- No document starts as a record does. -/
theorem startsRecord_pretty (document : Json) (rest : List Char) :
    startsRecord (document.pretty.toList ++ rest) = false := by
  obtain ⟨c, more, htext, hc, -⟩ := document.prettyAt_eq_cons 0
  have hverdicts : c ≠ 'P' ∧ c ≠ 'F' := by
    constructor
    all_goals
      rintro rfl
      contradiction
  rw [Json.pretty, htext]
  simp [startsRecord, pass, fail, List.isPrefixOf, hverdicts.1.symm, hverdicts.2.symm]

namespace Record

/-- The verdict of a record, with the space after it. -/
def verdict (r : Record) : List Char :=
  if r.predicate.translatable then pass else fail

theorem text_toList (r : Record) :
    r.text.toList = r.verdict ++ r.recorded.title.toList ++ '\n' ::
      ((if r.predicate.translatable then [] else r.predicate.display.toList ++ ['\n']) ++
        if r.holdsDocument then r.document.pretty.toList ++ ['\n', '\n'] else []) := by
  have hverdict : (if r.predicate.translatable then "PASS" else "FAIL").toList ++ ": ".toList =
      r.verdict := by
    unfold verdict
    split <;> decide
  have hspace : " ".toList = [' '] := by decide
  have hline : "\n".toList = ['\n'] := by decide
  have hblank : "\n\n".toList = ['\n', '\n'] := by decide
  have hholds : (!r.predicate.translatable || r.destination == .user) = r.holdsDocument := rfl
  unfold text recordText headline recorded
  simp only [String.toList_append, hverdict, hspace, hline, hholds]
  cases r.predicate.translatable <;> cases r.holdsDocument <;> simp [hline, hblank]

theorem newline_not_mem_line {r : Record} (h : r.Unbroken) :
    '\n' ∉ r.verdict ++ r.recorded.title.toList := by
  have hverdict : '\n' ∉ r.verdict := by
    unfold verdict
    split <;> decide
  have htitle : '\n' ∉ r.recorded.title.toList := by
    simp only [recorded, String.toList_append, List.mem_append]
    rintro ((hindex | hspace) | hmethod)
    · exact h.index hindex
    · contradiction
    · exact h.method hmethod
  rw [List.mem_append]
  rintro (hmem | hmem)
  · exact hverdict hmem
  · exact htitle hmem

theorem startsRecord_text (r : Record) (rest : List Char) :
    startsRecord (r.text.toList ++ rest) = true := by
  rw [text_toList, verdict, startsRecord, Bool.or_eq_true, List.isPrefixOf_iff_prefix,
    List.isPrefixOf_iff_prefix, List.append_assoc, List.append_assoc]
  split
  · exact .inl (List.prefix_append _ _)
  · exact .inr (List.prefix_append _ _)

variable {r : Record} {rest : List Char}

/-- What is decoded after the first line of a record, its verdict being a pass. -/
theorem decodeRecord_pass {title : String} (h : '\n' ∉ pass ++ title.toList) :
    decodeRecord (pass ++ title.toList ++ '\n' :: rest) =
      if rest.isEmpty || startsRecord rest then (⟨true, title, none, none⟩, rest)
      else
        (⟨true, title, none, some (String.ofList (splitParagraph rest).1)⟩,
          (splitParagraph rest).2) := by
  have hverdict : pass.isPrefixOf (pass ++ title.toList) = true :=
    List.isPrefixOf_iff_prefix.2 (List.prefix_append _ _)
  unfold decodeRecord
  rw [splitLine_append h]
  simp only [hverdict, List.drop_left, String.ofList_toList, if_true]

theorem decodeRecord_fail {title p : String} (h : '\n' ∉ fail ++ title.toList)
    (hp : '\n' ∉ p.toList) (rest : List Char) :
    decodeRecord (fail ++ title.toList ++ '\n' :: (p.toList ++ '\n' :: rest)) =
      (⟨false, title, some p, some (String.ofList (splitParagraph rest).1)⟩,
        (splitParagraph rest).2) := by
  have hverdict : pass.isPrefixOf (fail ++ title.toList) = false := by
    simp [pass, fail, List.isPrefixOf]
  have hdrop : (fail ++ title.toList).drop pass.length = title.toList := by
    simp [pass, fail]
  unfold decodeRecord
  rw [splitLine_append h]
  simp only [hverdict, hdrop, splitLine_append hp, String.ofList_toList]
  rfl

/-- A record is decoded whatever comes after it, if this is nothing or starts as a record does. -/
theorem decodeRecord_text (h : r.Unbroken) (hrest : rest = [] ∨ startsRecord rest = true) :
    decodeRecord (r.text.toList ++ rest) = (r.recorded, rest) := by
  have hline := newline_not_mem_line h
  have hdocument := splitParagraph_append r.document.indented_pretty rest
  have hstarts := startsRecord_pretty r.document ('\n' :: '\n' :: rest)
  rw [text_toList, List.append_assoc]
  unfold verdict at hline ⊢
  cases hp : r.predicate.translatable with
  | true =>
    rw [hp, if_pos rfl] at hline
    rw [if_pos rfl, if_pos rfl, List.cons_append, decodeRecord_pass hline]
    cases hd : r.holdsDocument with
    | false =>
      have hempty : (rest.isEmpty || startsRecord rest) = true := by
        rcases hrest with rfl | hrest
        · rfl
        · rw [hrest, Bool.or_true]
      simp [hempty, recorded, hp, hd]
    | true =>
      simp [hstarts, hdocument, recorded, hp, hd]
  | false =>
    rw [hp] at hline
    have hd : r.holdsDocument = true := by
      rw [holdsDocument, hp]
      rfl
    have hfail := decodeRecord_fail hline h.predicate
      (r.document.pretty.toList ++ '\n' :: '\n' :: rest)
    rw [hdocument] at hfail
    simpa [recorded, hp, hd] using hfail

end Record

/-! ## Logs -/

theorem decodeRecords_append {r : Record} (h : r.Unbroken) {rest : List Char}
    (hrest : rest = [] ∨ startsRecord rest = true) :
    decodeRecords (r.text.toList ++ rest) = r.recorded :: decodeRecords rest := by
  cases htext : r.text.toList ++ rest with
  | nil =>
    have hstarts := r.startsRecord_text rest
    rw [htext] at hstarts
    contradiction
  | cons c more => rw [decodeRecords, ← htext, r.decodeRecord_text h hrest]

/-- A log can be read back record by record: from the texts of records one after the other the
decoder gets what each of them tells, in order. -/
theorem decode_join (records : List Record) (h : ∀ r ∈ records, r.Unbroken) :
    decode (String.join (records.map Record.text)) = records.map Record.recorded := by
  rw [decode, String.toList_join]
  induction records with
  | nil => rw [List.map_nil, List.flatMap_nil, decodeRecords, List.map_nil]
  | cons r rest ih =>
    obtain ⟨hr, hrest⟩ := List.forall_mem_cons.1 h
    rw [List.map_cons, List.flatMap_cons, decodeRecords_append hr, ih hrest, List.map_cons]
    cases rest with
    | nil => exact .inl rfl
    | cons next rest => exact .inr (next.startsRecord_text _)

/-- A pass without a document between a failure and a pass with one. -/
theorem decode_join_threeRecords :
    let document := Json.obj [("script", .str "PASS: a\n\nb")]
    let failure : Record := ⟨"logs-1", "_search", .system, document, notImplemented ["script"]⟩
    let pass : Record := ⟨".kibana", "_count", .system, document, .translated "match_all"⟩
    let records := [failure, pass, { pass with destination := .user }]
    (∀ r ∈ records, r.Unbroken) ∧ decode (String.join (records.map Record.text)) =
      [⟨false, "logs-1 _search", some ("(expression: Not implemented yet, " ++
          "notes: [Invalid query script], translatable: false)"), some document.pretty⟩,
        ⟨true, ".kibana _count", none, none⟩,
        ⟨true, ".kibana _count", none, some document.pretty⟩] := by
  intro document failure pass records
  have hrecords : ∀ r ∈ records, r.Unbroken := by
    refine List.forall_mem_cons.2 ⟨⟨by decide, by decide, by decide⟩, ?_⟩
    refine List.forall_mem_cons.2 ⟨⟨by decide, by decide, by decide⟩, ?_⟩
    exact List.forall_mem_singleton.2 ⟨by decide, by decide, by decide⟩
  refine ⟨hrecords, ?_⟩
  rw [decode_join records hrecords]
  rfl

end ClauseFilter.QueryLog

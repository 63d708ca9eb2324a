import ClauseFilter.Proofs.LogReading
import ClauseFilter.Proofs.LogRuns
import ClauseFilter.Proofs.SingleLine

/-!
# Lines of a record

A record has its first line, then the predicate if the translation is not faithful, then the
document if it is shown. No line of a document starts as a record does, whatever its strings hold.
The predicate is shown as it is, so it has one line unless a text of the document brings a newline
into it (`record_lines`).
-/

namespace ClauseFilter

/-- The lines of a text, the last one being what comes after its last newline. -/
def lines (text : String) : List (List Char) :=
  text.toList.splitOn '\n'

theorem OneLine.lines_eq {text : String} (h : OneLine text) : lines text = [text.toList] :=
  List.splitOn_eq_singleton h

/-! ## Lines of indented texts -/

namespace Json

theorem splitOn_cons {c : Char} (hc : c ≠ '\n') (rest : List Char) :
    (c :: rest).splitOn '\n' = (rest.splitOn '\n').modifyHead (c :: ·) := by
  rw [List.splitOn_cons_eq_if_modifyHead, if_neg]
  simpa using hc

theorem head_splitOn_cons {c : Char} (hc : c ≠ '\n') (rest : List Char) :
    ∃ line after, (c :: rest).splitOn '\n' = (c :: line) :: after ∧
      after = (rest.splitOn '\n').tail := by
  rw [splitOn_cons hc]
  cases hrest : rest.splitOn '\n' with
  | nil => exact absurd hrest (List.splitOn_ne_nil _ _)
  | cons line after => exact ⟨line, after, rfl, rfl⟩

/-- Every line of an indented text but the first starts with a space or a closing bracket. -/
theorem Indented.further_lines {text : List Char} (h : Indented text) :
    ∀ line ∈ (text.splitOn '\n').tail, ∃ c rest, line = c :: rest ∧ c ∈ [' ', ']', '}'] := by
  induction h with
  | nil => exact List.forall_mem_nil _
  | @char c rest hc h ih =>
    obtain ⟨line, after, hlines, rfl⟩ := head_splitOn_cons hc rest
    rwa [hlines]
  | @newline c rest hc h ih =>
    have hne : c ≠ '\n' := by
      rintro rfl
      contradiction
    have hnewline : ('\n' :: c :: rest).splitOn '\n' = [] :: (c :: rest).splitOn '\n' :=
      List.splitOn_append_cons_self_of_not_mem (List.not_mem_nil) _
    obtain ⟨line, after, hlines, -⟩ := head_splitOn_cons hne rest
    rw [hlines] at ih
    rw [hnewline, hlines]
    exact List.forall_mem_cons.2 ⟨⟨c, line, rfl, hc⟩, ih⟩

end Json

namespace QueryLog

/-! ## Lines of a document -/

theorem startsRecord_cons {c : Char} (hc : c ∉ ['P', 'F']) (rest : List Char) :
    startsRecord (c :: rest) = false := by
  obtain ⟨hpass, hfail⟩ : c ≠ 'P' ∧ c ≠ 'F' := by simpa using hc
  simp [startsRecord, pass, fail, List.isPrefixOf, hpass.symm, hfail.symm]

/-- No line of a document starts as a record does. -/
theorem not_startsRecord_of_mem_lines_pretty (document : Json) :
    ∀ line ∈ lines document.pretty, startsRecord line = false := by
  obtain ⟨c, rest, htext, hc, -⟩ := document.prettyAt_eq_cons 0
  have hpretty : document.pretty.toList = c :: rest := htext
  have hnewline : c ≠ '\n' := by
    rintro rfl
    contradiction
  have hverdict : c ∉ ['P', 'F'] := by
    have hnone : (['P', 'F'].all fun c => !Json.startsValue c) = true := by decide
    intro hmem
    have hstart := List.all_eq_true.1 hnone c hmem
    rw [hc] at hstart
    contradiction
  have hfurther := document.indented_pretty.further_lines
  obtain ⟨line, after, hlines, -⟩ := Json.head_splitOn_cons hnewline rest
  unfold lines
  rw [hpretty, hlines] at hfurther ⊢
  refine List.forall_mem_cons.2 ⟨startsRecord_cons hverdict line, fun other hother => ?_⟩
  obtain ⟨d, more, rfl, hd⟩ := hfurther other hother
  have hapart : ([' ', ']', '}'].all fun d => decide (d ∉ ['P', 'F'])) = true := by decide
  exact startsRecord_cons (of_decide_eq_true (List.all_eq_true.1 hapart d hd)) more

/-! ## Lines of a record -/

namespace Record

variable {r : Record}

/-- The lines between the first line of a record and its document. -/
def predicateLines (r : Record) : List (List Char) :=
  if r.predicate.translatable then [] else lines r.predicate.display

/-- The lines of a record after those of the predicate. -/
def documentLines (r : Record) : List (List Char) :=
  if r.holdsDocument then lines r.document.pretty ++ [[], []] else [[]]

theorem lines_text (h : '\n' ∉ r.verdict ++ r.recorded.title.toList) :
    lines r.text =
      (r.verdict ++ r.recorded.title.toList) :: (r.predicateLines ++ r.documentLines) := by
  have hdocument :
      (if r.holdsDocument then r.document.pretty.toList ++ ['\n', '\n'] else []).splitOn '\n' =
        r.documentLines := by
    unfold documentLines lines
    split
    · rw [List.splitOn_append_cons_self]
      rfl
    · exact List.splitOn_nil _
  rw [lines, text_toList, List.splitOn_append_cons_self_of_not_mem h, predicateLines]
  split
  · rw [List.nil_append, List.nil_append, hdocument]
  · rw [List.append_assoc, List.singleton_append, List.splitOn_append_cons_self, hdocument]
    rfl

theorem startsRecord_firstLine (title : List Char) : startsRecord (r.verdict ++ title) = true := by
  rw [verdict, startsRecord, Bool.or_eq_true, List.isPrefixOf_iff_prefix,
    List.isPrefixOf_iff_prefix]
  split
  · exact .inl (List.prefix_append _ _)
  · exact .inr (List.prefix_append _ _)

theorem countP_documentLines : r.documentLines.countP startsRecord = 0 := by
  rw [List.countP_eq_zero]
  intro line hline
  rw [Bool.not_eq_true]
  have hempty : startsRecord [] = false := rfl
  unfold documentLines at hline
  split at hline
  · rcases List.mem_append.1 hline with hline | hline
    · exact not_startsRecord_of_mem_lines_pretty _ line hline
    · rw [List.eq_of_mem_replicate (n := 2) hline, hempty]
  · rw [List.mem_singleton.1 hline, hempty]

/-- The lines of a record that start as a record does are the first one and those of the predicate
that do. -/
theorem countP_text (h : '\n' ∉ r.verdict ++ r.recorded.title.toList) :
    (lines r.text).countP startsRecord = 1 + r.predicateLines.countP startsRecord := by
  rw [lines_text h, List.countP_cons, List.countP_append, countP_documentLines,
    if_pos (startsRecord_firstLine _)]
  omega

/-- A predicate on a single line does not start as a record does. -/
theorem countP_predicateLines (h : OneLine r.predicate.display) :
    r.predicateLines.countP startsRecord = 0 := by
  have hstart : ∃ rest, r.predicate.display.toList = '(' :: rest := by
    unfold Predicate.display
    simp
  obtain ⟨rest, hrest⟩ := hstart
  unfold predicateLines
  split
  · rfl
  · rw [h.lines_eq, hrest, List.countP_singleton, startsRecord_cons (by decide)]
    rfl

theorem length_predicateLines (h : OneLine r.predicate.display)
    (hfailed : r.predicate.translatable = false) : r.predicateLines.length = 1 := by
  rw [predicateLines, hfailed, if_neg (by decide), h.lines_eq]
  rfl

theorem documentLines_eq (hfailed : r.predicate.translatable = false) :
    r.documentLines = lines r.document.pretty ++ [[], []] := by
  have hholds : r.holdsDocument = true := by
    rw [holdsDocument, hfailed]
    rfl
  rw [documentLines, if_pos hholds]

end Record

/-! ## Recording -/

namespace Call

variable (c : Call) (s : Settings)

/-- The record of the call, before it is a text. -/
def toRecord : Record where
  index := c.index
  method := c.bareMethod
  destination := c.destination s
  document := c.document
  predicate := c.predicate s

theorem oneLine_bareMethod (h : OneLine c.method) : OneLine c.bareMethod := by
  unfold bareMethod
  split
  · intro hmem
    rw [String.toList_ofList] at hmem
    exact h (List.mem_of_mem_tail hmem)
  · exact h

theorem oneLine_firstLine (hindex : OneLine c.index) (hmethod : OneLine c.method) :
    '\n' ∉ (c.toRecord s).verdict ++ (c.toRecord s).recorded.title.toList := by
  have hverdict : '\n' ∉ (c.toRecord s).verdict := by
    unfold Record.verdict
    split <;> decide
  have htitle : OneLine (c.toRecord s).recorded.title :=
    (OneLine.append hindex (by decide)).append (c.oneLine_bareMethod hmethod)
  intro hmem
  rcases List.mem_append.1 hmem with hmem | hmem
  · exact hverdict hmem
  · exact htitle hmem

end Call

/-- What a call appends has one line that starts as a record does for itself, and one for each line
of the shown predicate that does. No other line does, and between the first line and the document
there are just those of the predicate. So a document cannot forge a record if the newlines in its
strings and keys are not in the predicate, as when it has none there. -/
theorem record_lines (log : QueryLog) (store : FileStore) (c : Call) {entry : Entry}
    {final : FileStore} (hindex : OneLine c.index) (hmethod : OneLine c.method)
    (h : log.record store c.index c.method c.document = (.ok entry, final)) :
    let place := FileStore.denoted store.working (c.path log.settings)
    let p := (translate log.settings.maxDepth c.document).predicate
    let between := if p.translatable then [] else lines p.display
    final.content? place =
      some ((store.content? place).getD .empty ++ (c.text log.settings).toUTF8) ∧
    (∃ first after, lines (c.text log.settings) = first :: (between ++ after) ∧
      startsRecord first = true ∧
      (p.translatable = false → after = lines c.document.pretty ++ [[], []])) ∧
    (lines (c.text log.settings)).countP startsRecord = 1 + between.countP startsRecord ∧
    (OneLine p.display →
      between.countP startsRecord = 0 ∧ (p.translatable = false → between.length = 1)) ∧
    (c.document.Unbroken → OneLine p.display) := by
  intro place p between
  obtain ⟨r, hr⟩ : ∃ r, r = c.toRecord log.settings := ⟨_, rfl⟩
  have htext : c.text log.settings = r.text := hr ▸ rfl
  have hp : p = r.predicate := hr ▸ rfl
  have hdocument : c.document = r.document := hr ▸ rfl
  have hbetween : between = r.predicateLines := hr ▸ rfl
  have hfirst := hr ▸ c.oneLine_firstLine log.settings hindex hmethod
  have hlines := r.lines_text hfirst
  have hstarts := r.startsRecord_firstLine r.recorded.title.toList
  refine ⟨?_, ⟨_, r.documentLines, ?_, hstarts, ?_⟩, ?_, ?_, ?_⟩
  · obtain ⟨made, next, hrecord, -, happends⟩ | ⟨e, next, hrecord, -⟩ := log.record_cases store c
    · obtain ⟨-, rfl⟩ := Prod.mk.inj (hrecord.symm.trans h)
      rw [happends.content?, if_pos rfl]
    · obtain ⟨hresult, -⟩ := Prod.mk.inj (hrecord.symm.trans h)
      contradiction
  · rw [htext, hbetween]
    exact hlines
  · rw [hp, hdocument]
    exact r.documentLines_eq
  · rw [htext, hbetween]
    exact r.countP_text hfirst
  · rw [hp, hbetween]
    exact fun honeLine => ⟨r.countP_predicateLines honeLine, r.length_predicateLines honeLine⟩
  · exact fun hunbroken => oneLine_display_translate hunbroken _

/-- A log with its files in the working directory. -/
def plainLog : QueryLog where
  settings := ⟨defaultMaxDepth, ⟨"", "system.txt", "user.txt", "user-"⟩⟩

/-- A call whose document has a newline in a string that its predicate does not show. -/
def hiddenNewline : Call where
  index := "logs-1"
  method := "/_search"
  document := .obj [("script", .str "a\nPASS: logs-1 _search")]

theorem record_lines_hiddenNewline :
    let c := hiddenNewline
    let p := (translate plainLog.settings.maxDepth c.document).predicate
    (∃ entry final, plainLog.record (.empty []) c.index c.method c.document = (.ok entry, final)) ∧
      (lines (c.text plainLog.settings)).countP startsRecord = 1 ∧
      ∃ first, lines (c.text plainLog.settings) =
        first :: p.display.toList :: (lines c.document.pretty ++ [[], []]) := by
  intro c p
  have hrecord : ∃ entry final, plainLog.record (.empty []) hiddenNewline.index
      hiddenNewline.method hiddenNewline.document = (.ok entry, final) := ⟨_, _, rfl⟩
  have honeLine : OneLine p.display := by decide +kernel
  have hfailed : p.translatable = false := by decide +kernel
  have hbetween : (if p.translatable then [] else lines p.display) = [p.display.toList] := by
    rw [hfailed, if_neg (by decide), honeLine.lines_eq]
  obtain ⟨entry, final, hok⟩ := hrecord
  obtain ⟨-, ⟨first, after, hlines, -, hafter⟩, hcount, hhidden, -⟩ :=
    record_lines plainLog (.empty []) hiddenNewline (by decide) (by decide) hok
  refine ⟨⟨entry, final, hok⟩, ?_, first, ?_⟩
  · rw [hcount, (hhidden honeLine).1]
  · rw [hlines, hafter hfailed, hbetween]
    rfl

/-- A call whose document has a newline in a key that its predicate shows. -/
def shownNewline : Call :=
  { hiddenNewline with document := .obj [("a\nPASS: logs-1 _search", .obj [])] }

theorem not_record_lines :
    ¬ ∀ (log : QueryLog) (store : FileStore) (c : Call) (entry : Entry) (final : FileStore),
      OneLine c.index → OneLine c.method →
      log.record store c.index c.method c.document = (.ok entry, final) →
      (lines (c.text log.settings)).countP startsRecord = 1 ∧
      ∃ first between after, lines (c.text log.settings) = first :: (between ++ after) ∧
        startsRecord first = true ∧
        ((translate log.settings.maxDepth c.document).predicate.translatable = false →
          between.length = 1 ∧ after = lines c.document.pretty ++ [[], []]) := by
  intro h
  have hrecord : ∃ entry final, plainLog.record (.empty []) shownNewline.index
      shownNewline.method shownNewline.document = (.ok entry, final) := ⟨_, _, rfl⟩
  obtain ⟨entry, final, hrecord⟩ := hrecord
  have hone := (h plainLog (.empty []) shownNewline entry final (by decide) (by decide) hrecord).1
  have htwo : (lines (shownNewline.text plainLog.settings)).countP startsRecord = 2 := by
    decide +kernel
  omega

end QueryLog

end ClauseFilter

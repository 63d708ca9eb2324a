import ClauseFilter.Proofs.StoredFiles
import ClauseFilter.QueryLog

/-!
# Runs of the query log

After any sequence of calls a file holds what it has held before and then the records of those calls
that succeeded and go to it, in order; nothing else about files has changed (`files_of_run`). The
calls that fail are those whose paths are refused, since a store takes whatever is written to an
open file. A path denotes the same place throughout, whatever is made in between (`denoted`).
-/

namespace ClauseFilter

/-! ## Stores with the same files -/

namespace FileStore

variable {store store' store'' : FileStore} {place : Place} {path : String} {content : ByteArray}

/-- The place that a path denotes, be there something or not. -/
def denoted (working : Place) (path : String) : Place :=
  (Path.route path).names.foldl enter (if (Path.route path).absolute then [] else working)

/-- Whether a store has the files of another one, each with the same content. -/
structure SameFiles (store store' : FileStore) : Prop where
  working : store'.working = store.working
  content? (place : Place) : store'.content? place = store.content? place

theorem SameFiles.rfl : SameFiles store store :=
  ⟨Eq.refl _, fun _ => Eq.refl _⟩

theorem SameFiles.trans (h : SameFiles store store') (h' : SameFiles store' store'') :
    SameFiles store store'' :=
  ⟨h'.working.trans h.working, fun place => (h'.content? place).trans (h.content? place)⟩

/-- Whether a store is another one with more content at the end of the file at a place, which need
not have been there before. -/
structure Appends (target : Place) (content : ByteArray) (store store' : FileStore) : Prop where
  working : store'.working = store.working
  content? (place : Place) : store'.content? place =
    if place = target then some ((store.content? place).getD .empty ++ content)
    else store.content? place

theorem SameFiles.appends (h : SameFiles store store') (h' : Appends place content store' store'') :
    Appends place content store store'' :=
  ⟨h'.working.trans h.working, fun other => by rw [h'.content?, h.content?]⟩

theorem content?_put_file (hplace : place ≠ []) (content : ByteArray) (other : Place) :
    (store.put place (.file content)).content? other =
      if other = place then some content else store.content? other := by
  unfold content?
  by_cases hother : other = place
  · rw [hother, at?_put_self hplace, if_pos rfl]
  · rw [at?_put_ne hother, if_neg hother]

/-! ## Directories -/

theorem sameFiles_put_directory (hplace : place ≠ []) (h : store.at? place = none) :
    SameFiles store (store.put place .directory) := by
  refine ⟨rfl, fun other => ?_⟩
  unfold content?
  by_cases hother : other = place
  · rw [hother, at?_put_self hplace, h]
  · rw [at?_put_ne hother]

theorem sameFiles_makeDirectory {route : Path.Route} (h : store.makeDirectory route = .ok store') :
    SameFiles store store' := by
  unfold makeDirectory at h
  obtain ⟨target, -, h⟩ := ok_of_bind h
  cases target with
  | known directory => contradiction
  | named directory name =>
    obtain ⟨place, hplace, h⟩ := ok_of_bind h
    obtain rfl := placeOf_eq_ok hplace
    split at h
    · contradiction
    · next hnone =>
      obtain rfl := Except.ok.inj h
      exact sameFiles_put_directory (by simp) hnone

theorem sameFiles_ensureDirectory {route : Path.Route}
    (h : store.ensureDirectory route = .ok store') : SameFiles store store' := by
  unfold ensureDirectory at h
  split at h
  · next hmade =>
    obtain rfl := Except.ok.inj h
    exact sameFiles_makeDirectory hmade
  · split at h
    · obtain rfl := Except.ok.inj h
      exact .rfl
    · contradiction

/-- Making directories leaves all files as they are, even when it is refused halfway. -/
theorem sameFiles_makeAll (store : FileStore) (routes : List Path.Route) :
    SameFiles store (store.makeAll routes).2 := by
  induction routes with
  | nil => exact .rfl
  | cons route above ih =>
    rw [makeAll]
    split
    · next hmade => exact sameFiles_makeDirectory hmade
    · split
      · next habove => rwa [habove] at ih
      · next habove =>
        rw [habove] at ih
        split
        · next hensured => exact ih.trans (sameFiles_ensureDirectory hensured)
        · exact ih
    · split
      · exact .rfl
      · exact .rfl

theorem sameFiles_makeDirectories (store : FileStore) (path : String) :
    SameFiles store (store.makeDirectories path).2 := by
  unfold makeDirectories
  split
  · exact .rfl
  · split
    · exact .rfl
    · exact sameFiles_makeAll store _

/-! ## Appending -/

theorem foldl_enter_of_follow {names : List String} {final : Place}
    (h : store.follow place names = .ok final) : names.foldl enter place = final := by
  induction names generalizing place with
  | nil => exact Except.ok.inj h
  | cons name names ih =>
    obtain ⟨-, -, -, hrest⟩ := follow_cons_eq_ok_iff.1 h
    exact ih hrest

/-- A path that can be written to leads to the place that it denotes. -/
theorem denoted_of_writable (h : store.writable path = .ok place) :
    denoted store.working path = place := by
  obtain ⟨directory, name, hleads, rfl, -⟩ := writable_eq_ok h
  obtain ⟨hlast, hdot, hdots, -, hfollow⟩ := target_eq_named_iff.1 hleads.target
  obtain ⟨before, hnames⟩ := List.getLast?_eq_some_iff.1 hlast
  rw [hnames, List.dropLast_concat] at hfollow
  rw [denoted, hnames, List.foldl_concat, foldl_enter_of_follow hfollow, enter, if_neg hdot,
    if_neg hdots]

theorem appends_of_append (h : store.append path content = .ok store') :
    Appends (denoted store.working path) content store store' := by
  obtain ⟨place, hwritable, h⟩ := ok_of_bind h
  obtain ⟨directory, name, -, hplace, -⟩ := writable_eq_ok hwritable
  obtain rfl := Except.ok.inj h
  refine ⟨rfl, fun other => ?_⟩
  rw [denoted_of_writable hwritable, content?_put_file (by simp [hplace])]
  split
  · next h => rw [h]
  · rfl

end FileStore

namespace QueryLog

/-- What the query log is asked to record. -/
structure Call where
  index : String
  method : String
  document : Json

namespace Call

variable (c : Call) (s : Settings)

/-- Queries against the indexes with the prefix of user indexes are those of users. -/
def destination : Destination :=
  if s.log.userIndexPrefix.toList <+: c.index.toList then .user else .system

/-- The path of the file that the call goes to. -/
def path : String :=
  match c.destination s with
  | .user => s.log.userPath
  | .system => s.log.systemPath

/-- The method without the first slash, if it begins with one. -/
def bareMethod : String :=
  if c.method.toList.head? = some '/' then String.ofList c.method.toList.tail else c.method

/-- The predicate of the document under the maximum depth that is set. -/
def predicate : Predicate :=
  (translate s.maxDepth c.document).predicate

/-- The record of the call. -/
def text : String :=
  recordText c.index c.bareMethod (c.destination s) c.document (c.predicate s)

end Call

variable (log : QueryLog) (store : FileStore)

/-- Records calls one after the other. -/
def run : FileStore → List Call → List (Except Error Entry) × FileStore
  | store, [] => ([], store)
  | store, c :: rest =>
    let (result, next) := log.record store c.index c.method c.document
    let (results, final) := run next rest
    (result :: results, final)

/-- The records of the calls that have succeeded and whose path denotes a place, in order. -/
def recordsAt (working place : Place) (done : List (Call × Except Error Entry)) : List String :=
  done.filterMap fun (c, result) =>
    match result with
    | .ok _ =>
      if place = FileStore.denoted working (c.path log.settings) then some (c.text log.settings)
      else none
    | .error _ => none

/-! ## One call -/

theorem destination_eq (c : Call) : log.destination c.index = c.destination log.settings := by
  simp only [destination, LogSettings.isUserIndex, Call.destination, List.isPrefixOf_iff_prefix]

theorem path_eq (c : Call) : log.path (log.destination c.index) = c.path log.settings := by
  rw [destination_eq, Call.path]
  cases c.destination log.settings <;> rfl

theorem methodName_eq (c : Call) : methodName c.method = c.bareMethod := by
  unfold methodName Call.bareMethod
  split
  · next h => simp [h]
  · next h =>
    rw [if_neg]
    intro hhead
    obtain ⟨rest, hrest⟩ := List.head?_eq_some_iff.1 hhead
    exact h rest hrest

theorem entry_eq (c : Call) :
    (log.entry c.index c.method c.document).text = c.text log.settings ∧
      (log.entry c.index c.method c.document).predicate = c.predicate log.settings := by
  refine ⟨?_, rfl⟩
  unfold entry Call.text
  dsimp only
  rw [methodName_eq, destination_eq]
  rfl

/-- What a call does to the files, and what it returns. -/
theorem record_cases (c : Call) :
    (∃ entry final, log.record store c.index c.method c.document = (.ok entry, final) ∧
      entry.predicate = c.predicate log.settings ∧
      store.Appends (FileStore.denoted store.working (c.path log.settings))
        (c.text log.settings).toUTF8 final) ∨
    (∃ e final, log.record store c.index c.method c.document = (.error e, final) ∧
      store.SameFiles final) := by
  have hmade := FileStore.sameFiles_makeDirectories store log.settings.log.directory
  obtain ⟨htext, hpredicate⟩ := log.entry_eq c
  have hpath : log.path (log.entry c.index c.method c.document).destination =
      c.path log.settings := log.path_eq c
  unfold record append
  dsimp only
  rw [htext, hpath]
  cases hdirectories : store.makeDirectories log.settings.log.directory with
  | mk outcome made =>
    rw [hdirectories] at hmade
    cases outcome with
    | error refusal => exact .inr ⟨_, made, rfl, hmade⟩
    | ok _ =>
      dsimp only
      cases happend : made.append (c.path log.settings) (c.text log.settings).toUTF8 with
      | error refusal => exact .inr ⟨_, made, rfl, hmade⟩
      | ok final =>
        have happends := hmade.appends (FileStore.appends_of_append happend)
        rw [hmade.working] at happends
        exact .inl ⟨_, final, rfl, hpredicate, happends⟩

/-! ## Runs -/

theorem recordsAt_cons_ok (working place : Place) (c : Call) (entry : Entry)
    (done : List (Call × Except Error Entry)) :
    log.recordsAt working place ((c, .ok entry) :: done) =
      if place = FileStore.denoted working (c.path log.settings) then
        c.text log.settings :: log.recordsAt working place done
      else log.recordsAt working place done := by
  rw [recordsAt, List.filterMap_cons]
  dsimp only
  split <;> simp_all [recordsAt]

/-- What a run has left in a file, given what was there before and the records that go to it. -/
def withRecords (before : Option ByteArray) (records : List String) : Option ByteArray :=
  if records = [] then before else some (before.getD .empty ++ (String.join records).toUTF8)

theorem withRecords_cons (before : Option ByteArray) (text : String) (records : List String) :
    withRecords before (text :: records) =
      withRecords (some (before.getD .empty ++ text.toUTF8)) records := by
  unfold withRecords
  rw [if_neg (List.cons_ne_nil _ _), String.join_cons, String.toUTF8_eq_toByteArray,
    String.toByteArray_append, ← ByteArray.append_assoc]
  split
  · next h =>
    rw [h]
    exact congrArg some ByteArray.append_empty
  · rfl

theorem run_cons {c : Call} {rest : List Call} {result : Except Error Entry} {next : FileStore}
    (h : log.record store c.index c.method c.document = (result, next)) :
    log.run store (c :: rest) = (result :: (log.run next rest).1, (log.run next rest).2) := by
  rw [run, h]

theorem length_run (calls : List Call) : (log.run store calls).1.length = calls.length := by
  induction calls generalizing store with
  | nil => rfl
  | cons c rest ih =>
    rw [run]
    simp only [List.length_cons, ih]

theorem content?_run (calls : List Call) (place : Place) :
    (log.run store calls).2.content? place =
      withRecords (store.content? place)
        (log.recordsAt store.working place (calls.zip (log.run store calls).1)) := by
  induction calls generalizing store with
  | nil => rfl
  | cons c rest ih =>
    obtain ⟨entry, next, hrecord, -, happends⟩ | ⟨e, next, hrecord, hsame⟩ :=
      log.record_cases store c
    · rw [log.run_cons store hrecord, List.zip_cons_cons, recordsAt_cons_ok, ih, happends.working,
        happends.content?]
      split
      · rw [withRecords_cons]
      · rfl
    · rw [log.run_cons store hrecord, List.zip_cons_cons, ih, hsame.working, hsame.content?]
      rfl

theorem predicate_of_mem_run {calls : List Call} {c : Call} {entry : Entry}
    (h : (c, .ok entry) ∈ calls.zip (log.run store calls).1) :
    entry.predicate = c.predicate log.settings := by
  induction calls generalizing store with
  | nil => contradiction
  | cons first rest ih =>
    obtain ⟨made, next, hrecord, hpredicate, -⟩ | ⟨e, next, hrecord, -⟩ :=
      log.record_cases store first
    all_goals
      rw [log.run_cons store hrecord, List.zip_cons_cons, List.mem_cons] at h
      obtain heq | hrest := h
    · cases heq
      exact hpredicate
    · exact ih next hrest
    · cases heq
    · exact ih next hrest

/-- After a run of calls every file holds what it has held before the run and then, in the order of
the calls, the records of the calls that have succeeded and whose path denotes the file. A file that
there has not been counts as empty, and a file to which no call goes stays as it is. A call that
succeeds returns the predicate of its document, and one that fails changes no file. -/
theorem files_of_run (log : QueryLog) (store : FileStore) (calls : List Call) :
    let results := (log.run store calls).1
    let final := (log.run store calls).2
    results.length = calls.length ∧
    (∀ place, final.content? place =
      let records := log.recordsAt store.working place (calls.zip results)
      if records = [] then store.content? place
      else some ((store.content? place).getD .empty ++ (String.join records).toUTF8)) ∧
    (∀ c entry, (c, .ok entry) ∈ calls.zip results →
      entry.predicate = (translate log.settings.maxDepth c.document).predicate) ∧
    (∀ (c : Call) before e after,
      log.record before c.index c.method c.document = (.error e, after) →
        ∀ place, after.content? place = before.content? place) := by
  refine ⟨log.length_run store calls, log.content?_run store calls,
    fun c entry h => log.predicate_of_mem_run store h, fun c before e after h place => ?_⟩
  obtain ⟨entry, next, hrecord, -⟩ | ⟨e', next, hrecord, hsame⟩ := log.record_cases before c
  · cases hrecord.symm.trans h
  · cases hrecord.symm.trans h
    exact hsame.content? place

end QueryLog

end ClauseFilter

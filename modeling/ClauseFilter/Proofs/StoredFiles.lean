import ClauseFilter.Fault
import ClauseFilter.FileStore
import Mathlib.Data.List.Basic

/-!
# Files that have been written

A file that has been written is read with the content it was given (`read_write`), and writing to a
path whose last name is another one does not change this (`read_write_ne`). Both rest on the fact
that paths lead in a store with one more file to where they have led before.
-/

namespace ClauseFilter

namespace Path

theorem runs_of_slash_not_mem {chars : List Char} (h : '/' ∉ chars) : runs chars = [chars] := by
  induction chars with
  | nil => rfl
  | cons c rest ih =>
    rw [List.mem_cons, not_or] at h
    rw [runs, if_neg (Ne.symm h.1), ih h.2]

theorem runs_ne_nil (chars : List Char) : runs chars ≠ [] := by
  cases chars with
  | nil => exact List.cons_ne_nil _ _
  | cons c rest =>
    rw [runs]
    split
    · exact List.cons_ne_nil _ _
    · split <;> exact List.cons_ne_nil _ _

theorem runs_append_slash (above rest : List Char) :
    runs (above ++ '/' :: rest) = runs above ++ runs rest := by
  induction above with
  | nil => rfl
  | cons c above ih =>
    rw [List.cons_append, runs, runs, ih]
    split
    · rfl
    · cases habove : runs above with
      | nil => exact absurd habove (runs_ne_nil above)
      | cons run more => rfl

/-- A name that is joined to a directory stands last in the path. -/
theorem join_toList (directory : String) {name : String} (h : '/' ∉ name.toList) :
    (join directory name).toList = name.toList ∨
      ∃ above, (join directory name).toList = above ++ '/' :: name.toList := by
  have hhead : name.toList.head? ≠ some '/' := fun heq => h (List.mem_of_head? heq)
  unfold join
  split
  · exact .inl rfl
  · split
    · next hlast =>
      obtain ⟨above, habove⟩ := List.getLast?_eq_some_iff.1 hlast
      refine .inr ⟨above, ?_⟩
      rw [String.toList_append, habove, List.append_assoc, List.singleton_append]
    · refine .inr ⟨directory.toList, ?_⟩
      rw [String.toList_append, String.toList_append, List.append_assoc]
      rfl

theorem getLast?_names_join (directory : String) {name : String} (hname : name ≠ "")
    (h : '/' ∉ name.toList) : (route (join directory name)).names.getLast? = some name := by
  have hruns : ((runs name.toList).filter (· ≠ [])).map String.ofList = [name] := by
    have hne : name.toList ≠ [] := fun heq => hname (String.toList_eq_nil_iff.1 heq)
    rw [runs_of_slash_not_mem h, List.filter_singleton]
    simp [hne]
  unfold route
  dsimp only
  obtain hjoin | ⟨above, hjoin⟩ := join_toList directory h
  · rw [hjoin, hruns]
    rfl
  · rw [hjoin, runs_append_slash, List.filter_append, List.map_append, hruns,
      List.getLast?_append]
    rfl

end Path

namespace FileStore

variable {store store' : FileStore} {place : Place} {content : ByteArray}

/-! ## A store with one more file -/

theorem at?_put_self (hplace : place ≠ []) (node : Node) :
    (store.put place node).at? place = some node := by
  simp [at?, put, hplace]

theorem at?_put_ne {other : Place} (h : other ≠ place) (node : Node) :
    (store.put place node).at? other = store.at? other := by
  unfold at? put
  dsimp only
  rw [if_neg h]

/-- Whether a store has everything that another one has, and each directory as one. -/
structure Grows (store store' : FileStore) : Prop where
  working : store'.working = store.working
  isSome_at? (place : Place) : (store.at? place).isSome = true → (store'.at? place).isSome = true
  isDirectoryAt (place : Place) :
    store.isDirectoryAt place = true → store'.isDirectoryAt place = true

theorem grows_put_file (h : store.isDirectoryAt place = false) (content : ByteArray) :
    Grows store (store.put place (.file content)) := by
  have hplace : place ≠ [] := by
    rintro rfl
    contradiction
  refine ⟨rfl, fun other hother => ?_, fun other hother => ?_⟩
  · by_cases hne : other = place
    · rw [hne, at?_put_self hplace]
      rfl
    · rwa [at?_put_ne hne]
  · have hne : other ≠ place := by
      rintro rfl
      rw [h] at hother
      contradiction
    rw [FileStore.isDirectoryAt, at?_put_ne hne]
    exact hother

theorem follow_cons_eq_ok_iff {name : String} {rest : List String} {final : Place} :
    store.follow place (name :: rest) = .ok final ↔
      store.isDirectoryAt place = true ∧ name.utf8ByteSize ≤ maxName ∧
        (store.at? (enter place name)).isSome = true ∧
          store.follow (enter place name) rest = .ok final := by
  rw [follow]
  split
  · simp_all
  · split
    · next hname => simp [Nat.not_le.2 hname]
    · split
      · simp_all
      · simp_all [Option.isSome_iff_ne_none]

theorem Grows.follow (h : Grows store store') {names : List String} {final : Place}
    (hfollow : store.follow place names = .ok final) : store'.follow place names = .ok final := by
  induction names generalizing place with
  | nil => exact hfollow
  | cons name names ih =>
    obtain ⟨hdirectory, hname, hsome, hrest⟩ := follow_cons_eq_ok_iff.1 hfollow
    exact follow_cons_eq_ok_iff.2
      ⟨h.isDirectoryAt _ hdirectory, hname, h.isSome_at? _ hsome, ih hrest⟩

theorem target_eq_named_iff {route : Path.Route} {directory : Place} {name : String} :
    store.target route = .ok (.named directory name) ↔
      route.names.getLast? = some name ∧ name ≠ "." ∧ name ≠ ".." ∧
        store.isDirectoryAt directory = true ∧
          store.follow (if route.absolute then [] else store.working) route.names.dropLast =
            .ok directory := by
  unfold target
  dsimp only
  cases route.names.getLast? with
  | none => simp
  | some last =>
    cases hfollow : store.follow (if route.absolute then [] else store.working)
        route.names.dropLast with
    | error refusal => simp [bind, Except.bind]
    | ok place =>
      simp only [bind, Except.bind, Except.ok.injEq, Option.some.injEq]
      constructor
      · intro h
        split at h
        · contradiction
        · next hdirectory =>
          split at h
          · cases h
          · next hdots =>
            cases h
            rw [not_or] at hdots
            exact ⟨rfl, hdots.1, hdots.2, by simpa using hdirectory, rfl⟩
      · rintro ⟨rfl, hdot, hdots, hdirectory, rfl⟩
        simp [hdirectory, hdot, hdots]

theorem Grows.target (h : Grows store store') {route : Path.Route} {directory : Place}
    {name : String} (htarget : store.target route = .ok (.named directory name)) :
    store'.target route = .ok (.named directory name) := by
  obtain ⟨hlast, hdot, hdots, hdirectory, hfollow⟩ := target_eq_named_iff.1 htarget
  rw [target_eq_named_iff, h.working]
  exact ⟨hlast, hdot, hdots, h.isDirectoryAt _ hdirectory, h.follow hfollow⟩

/-! ## Reading and writing -/

theorem checked_eq_ok {path : String} {route : Path.Route} (h : checked path = .ok route) :
    route = Path.route path := by
  unfold checked at h
  split at h
  · contradiction
  · split at h
    · contradiction
    · split at h
      · contradiction
      · exact (Except.ok.inj h).symm

/-- Whether a path leads to the place of a name in a directory, at which a file may be. -/
structure LeadsTo (store : FileStore) (path : String) (directory : Place) (name : String) :
    Prop where
  checked : checked path = .ok (Path.route path)
  target : store.target (Path.route path) = .ok (.named directory name)
  trailing : (Path.route path).trailing = false
  placeOf : placeOf directory name = .ok (directory ++ [name])

variable {path : String} {directory : Place} {name : String}

theorem LeadsTo.grows (h : store.LeadsTo path directory name) (hgrows : Grows store store') :
    store'.LeadsTo path directory name :=
  ⟨h.checked, hgrows.target h.target, h.trailing, h.placeOf⟩

theorem LeadsTo.getLast?_names (h : store.LeadsTo path directory name) :
    (Path.route path).names.getLast? = some name :=
  (target_eq_named_iff.1 h.target).1

theorem placeOf_eq_ok (h : placeOf directory name = .ok place) : place = directory ++ [name] := by
  unfold placeOf at h
  split at h
  · contradiction
  · exact (Except.ok.inj h).symm

theorem writable_eq_ok (h : store.writable path = .ok place) :
    ∃ directory name, store.LeadsTo path directory name ∧ place = directory ++ [name] ∧
      store.isDirectoryAt place = false := by
  unfold writable at h
  obtain ⟨route, hchecked, h⟩ := ok_of_bind h
  obtain rfl := checked_eq_ok hchecked
  obtain ⟨target, htarget, h⟩ := ok_of_bind h
  cases target with
  | known directory => contradiction
  | named directory name =>
    dsimp only at h
    split at h
    · contradiction
    · next htrailing =>
      obtain ⟨other, hplaceOf, h⟩ := ok_of_bind h
      obtain rfl := placeOf_eq_ok hplaceOf
      split at h
      · contradiction
      · next hother =>
        obtain rfl := Except.ok.inj h
        refine ⟨directory, name, ⟨hchecked, htarget, by simpa using htrailing, hplaceOf⟩, rfl, ?_⟩
        unfold isDirectoryAt
        split
        · next hdirectory => exact absurd hdirectory hother
        · rfl

theorem read_eq_ok (h : store.read path = .ok content) :
    ∃ directory name, store.LeadsTo path directory name ∧
      store.at? (directory ++ [name]) = some (.file content) := by
  unfold read at h
  obtain ⟨route, hchecked, h⟩ := ok_of_bind h
  obtain rfl := checked_eq_ok hchecked
  obtain ⟨target, htarget, h⟩ := ok_of_bind h
  cases target with
  | known directory => contradiction
  | named directory name =>
    obtain ⟨other, hplaceOf, h⟩ := ok_of_bind h
    obtain rfl := placeOf_eq_ok hplaceOf
    split at h
    · contradiction
    · contradiction
    · next hfile =>
      split at h
      · contradiction
      · next htrailing =>
        obtain rfl := Except.ok.inj h
        exact ⟨directory, name, ⟨hchecked, htarget, by simpa using htrailing, hplaceOf⟩, hfile⟩

theorem LeadsTo.read (h : store.LeadsTo path directory name)
    (hfile : store.at? (directory ++ [name]) = some (.file content)) :
    store.read path = .ok content := by
  unfold FileStore.read
  simp only [h.checked, h.target, h.placeOf, hfile, h.trailing, bind, Except.bind]
  rfl

/-- A file that has been written is read with its new content. -/
theorem read_write (h : store.write path content = .ok store') :
    store'.read path = .ok content := by
  obtain ⟨place, hwritable, h⟩ := ok_of_bind h
  obtain ⟨directory, name, hleads, rfl, hplace⟩ := writable_eq_ok hwritable
  obtain rfl := Except.ok.inj h
  refine (hleads.grows (grows_put_file hplace content)).read ?_
  exact at?_put_self (by simp) _

/-- Writing to a path does not change the files that paths with another last name lead to. -/
theorem read_write_ne {other : String} {content' : ByteArray}
    (hne : (Path.route path).names.getLast? ≠ (Path.route other).names.getLast?)
    (hread : store.read path = .ok content) (h : store.write other content' = .ok store') :
    store'.read path = .ok content := by
  obtain ⟨directory, name, hleads, hfile⟩ := read_eq_ok hread
  obtain ⟨place, hwritable, h⟩ := ok_of_bind h
  obtain ⟨otherDirectory, otherName, hother, rfl, hplace⟩ := writable_eq_ok hwritable
  obtain rfl := Except.ok.inj h
  have hplaces : directory ++ [name] ≠ otherDirectory ++ [otherName] := by
    intro heq
    rw [hleads.getLast?_names, hother.getLast?_names] at hne
    exact hne (congrArg some (List.append_singleton_inj.1 heq).2)
  refine (hleads.grows (grows_put_file hplace content')).read ?_
  rw [at?_put_ne hplaces, hfile]

theorem readText_of_read {text : String} (h : store.read path = .ok text.toUTF8) :
    store.readText path = .ok text := by
  have htext : String.fromUTF8? text.toUTF8 = some text := dif_pos text.isValidUTF8
  simp only [readText, h, htext, bind, Except.bind]

end FileStore

end ClauseFilter

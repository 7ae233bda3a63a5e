import Mathlib.Data.List.Infix
import Stencil.Files.Disk

/-!
# Files on a disk

Where a path leads to is settled by its segments; the disk only decides whether the directories on
the way are there. A write adds directories and changes one file, a removal takes one file away.
-/

namespace Stencil

namespace Path

/-- The segments of a path in a directory are those of the directory and of the path. -/
theorem mem_segments_join {directory path segment : String}
    (inside : segment ∈ segments (join directory path)) :
    segment ∈ segments directory ∨ segment ∈ segments path := by
  have slashed (first second : List Char)
      (inside : segment ∈ (cutAtSlashes (first ++ '/' :: second)).map String.ofList) :
      segment ∈ (cutAtSlashes first).map String.ofList ∨
        segment ∈ (cutAtSlashes second).map String.ofList := by
    rw [cutAtSlashes_append, List.map_append] at inside
    exact List.mem_append.mp inside
  unfold join at inside
  split at inside
  · exact .inr inside
  · split at inside
    · next slash =>
        obtain ⟨init, whole⟩ := List.getLast?_eq_some_iff.mp slash
        unfold segments at inside ⊢
        rw [String.toList_append, whole, List.append_assoc] at inside
        rw [whole, cutAtSlashes_append, List.map_append]
        exact (slashed init path.toList inside).imp_left (List.mem_append_left _)
    · unfold segments at inside
      rw [String.toList_append, String.toList_append, List.append_assoc] at inside
      exact slashed directory.toList path.toList inside

end Path

namespace Location

/-- Downwards, what is visited leads to the end. -/
theorem isPrefix_foldl_enter {segments : List String} (down : ".." ∉ segments)
    (location : Location) :
    location <+: segments.foldl enter location ∧
      ∀ visited ∈ location.visits segments, visited <+: segments.foldl enter location := by
  induction segments generalizing location with
  | nil => exact ⟨List.prefix_rfl, nofun⟩
  | cons segment rest ih =>
      rw [List.mem_cons, not_or] at down
      obtain ⟨further, visits⟩ := ih down.2 (location.enter segment)
      have first : location <+: location.enter segment := by
        unfold enter
        split
        · exact List.prefix_rfl
        · rw [if_neg (Ne.symm down.1)]
          exact List.prefix_append location [segment]
      exact ⟨first.trans further, List.forall_mem_cons.mpr ⟨first.trans further, visits⟩⟩

end Location

namespace Disk

variable {disk after : Disk} {path target : String} {location : Location} {file other : File}

theorem follow_eq_ok {segments : List String} {last : Location} :
    disk.follow location segments = .ok last ↔
      last = segments.foldl Location.enter location ∧
        ∀ visited ∈ location.visits segments, visited ∈ disk.directories := by
  induction segments generalizing location with
  | nil =>
      rw [follow, Except.ok.injEq]
      exact ⟨fun same => ⟨same.symm, nofun⟩, fun same => same.1.symm⟩
  | cons segment rest ih =>
      rw [follow, Location.visits, List.forall_mem_cons]
      by_cases inside : location ∈ disk.directories
      · rw [if_pos inside, ih]
        exact ⟨fun ⟨same, visits⟩ => ⟨same, inside, visits⟩,
          fun ⟨same, _, visits⟩ => ⟨same, visits⟩⟩
      · rw [if_neg inside]
        refine ⟨fun followed => ?_, fun ⟨_, here, _⟩ => absurd here inside⟩
        split at followed <;> cases followed

theorem locate_eq_ok :
    disk.locate path = .ok location ↔ path.isEmpty = false ∧
      location = (Path.segments path).foldl Location.enter (disk.origin path) ∧
        ∀ visited ∈ (disk.origin path).visits (Path.segments path),
          visited ∈ disk.directories := by
  unfold locate
  cases path.isEmpty with
  | true => exact ⟨nofun, nofun⟩
  | false => simp [follow_eq_ok]

theorem read_eq_ok :
    disk.read path = .ok file ↔
      ∃ location, disk.locate path = .ok location ∧ disk.file? location = some file := by
  unfold read
  cases disk.locate path with
  | error error => exact ⟨nofun, nofun⟩
  | ok location =>
      simp only [bind, Except.bind, Except.ok.injEq, exists_eq_left']
      cases disk.file? location with
      | none => exact ⟨nofun, nofun⟩
      | some found => simp [pure, Except.pure]

theorem readText_eq_ok {content : String} {modified : Time} :
    disk.readText path = .ok (content, modified) ↔
      ∃ file, disk.read path = .ok file ∧ Text.ofUtf8? file.content = some content ∧
        file.modified = modified := by
  unfold readText
  cases disk.read path with
  | error error => exact ⟨nofun, nofun⟩
  | ok file =>
      simp only [bind, Except.bind, Except.ok.injEq, exists_eq_left']
      cases Text.ofUtf8? file.content with
      | none => exact ⟨nofun, nofun⟩
      | some text => simp [pure, Except.pure]

theorem isFile_iff : disk.isFile path = true ↔
    ∃ location file, disk.locate path = .ok location ∧ disk.file? location = some file := by
  unfold isFile
  cases read : disk.read path with
  | error error =>
      refine ⟨nofun, fun ⟨location, file, located, present⟩ => ?_⟩
      cases read.symm.trans (read_eq_ok.mpr ⟨location, located, present⟩)
  | ok file =>
      obtain ⟨location, located, present⟩ := read_eq_ok.mp read
      exact ⟨fun _ => ⟨location, file, located, present⟩, fun _ => rfl⟩

/-! ## Writes and removals -/

theorem lookup_without (files : List (Location × File)) (gone : Location) :
    (files.filter (·.1 ≠ gone)).lookup location =
      if location = gone then none else files.lookup location := by
  induction files with
  | nil => simp
  | cons entry rest ih =>
      obtain ⟨place, kept⟩ := entry
      rw [List.filter_cons, List.lookup_cons]
      by_cases same : place = gone
      · subst same
        rw [if_neg (by simp), ih]
        by_cases here : location = place
        · rw [if_pos here, if_pos here]
        · rw [if_neg here, if_neg here, beq_eq_false_iff_ne.mpr here]
      · rw [if_pos (by simpa using same), List.lookup_cons, ih]
        cases here : location == place with
        | false => rfl
        | true =>
            have apart : location ≠ gone := fun gone => same (eq_of_beq here ▸ gone)
            exact (if_neg apart).symm

/-- Whoever writes a file changes no other. -/
theorem file?_write (found : (disk.write path file).file? location = some other) :
    other = file ∨ disk.file? location = some other := by
  unfold file? write at found
  rw [List.lookup_cons] at found
  split at found
  · cases found
    exact .inl rfl
  · rw [lookup_without] at found
    exact .inr (Option.ite_none_left_eq_some.mp found).2

theorem file?_remove (removed : disk.remove? path = some after)
    (found : after.file? location = some other) : disk.file? location = some other := by
  unfold remove? at removed
  split at removed
  · cases removed
  · split at removed
    · cases removed
      unfold file? at found
      rw [lookup_without] at found
      exact (Option.ite_none_left_eq_some.mp found).2
    · cases removed

/-- What was a file before a write still is one. -/
theorem isFile_write (isFile : disk.isFile path = true) (target : String) (file : File) :
    (disk.write target file).isFile path = true := by
  obtain ⟨location, kept, located, present⟩ := isFile_iff.mp isFile
  obtain ⟨named, rfl, visits⟩ := locate_eq_ok.mp located
  refine isFile_iff.mpr ⟨(Path.segments path).foldl Location.enter (disk.origin path), ?_⟩
  have located' : (disk.write target file).locate path =
      .ok ((Path.segments path).foldl Location.enter (disk.origin path)) :=
    locate_eq_ok.mpr ⟨named, rfl, fun visited inside =>
      List.mem_append_left _ (visits visited inside)⟩
  have present' : ∃ found, (disk.write target file).file?
      ((Path.segments path).foldl Location.enter (disk.origin path)) = some found := by
    unfold file? write
    rw [List.lookup_cons, lookup_without]
    split
    · exact ⟨_, rfl⟩
    · next apart => exact ⟨kept, by rw [if_neg (beq_eq_false_iff_ne.mp apart)]; exact present⟩
  obtain ⟨found, present'⟩ := present'
  exact ⟨found, located', present'⟩

/-! ## Trees -/

/-- A disk is a tree: directories are in directories, and so are files, which are none. -/
structure Tree (disk : Disk) : Prop where
  directories : ∀ location ∈ disk.directories, ∀ parent, parent <+: location →
    parent ∈ disk.directories
  files : ∀ location file, disk.file? location = some file →
    location.dropLast ∈ disk.directories ∧ location ∉ disk.directories

theorem mem_files (found : disk.file? location = some file) : (location, file) ∈ disk.files := by
  unfold file? at found
  generalize disk.files = files at found
  induction files with
  | nil => cases found
  | cons entry rest ih =>
      rw [List.lookup_cons] at found
      split at found
      · next same =>
          cases found
          obtain rfl := eq_of_beq same
          exact List.mem_cons_self
      · exact List.mem_cons_of_mem _ (ih found)

theorem tree_of_forall
    (directories : ∀ location ∈ disk.directories, ∀ parent ∈ location.inits,
      parent ∈ disk.directories)
    (files : ∀ entry ∈ disk.files,
      entry.1.dropLast ∈ disk.directories ∧ entry.1 ∉ disk.directories) : disk.Tree where
  directories := fun location inside parent leads =>
    directories location inside parent ((List.mem_inits parent location).mpr leads)
  files := fun location file found => files (location, file) (mem_files found)

/-- On the way down to a file that was there before there are no new directories. -/
theorem locate_of_locate (tree : disk.Tree) (tree' : after.Tree) (here : after.here = disk.here)
    (down : ".." ∉ Path.segments path) (located : after.locate path = .ok location)
    (present : disk.file? location = some file) (present' : after.file? location = some other) :
    disk.locate path = .ok location := by
  have origin : after.origin path = disk.origin path := by rw [origin, origin, here]
  rw [locate_eq_ok, origin] at located
  obtain ⟨named, rfl, visits⟩ := located
  refine locate_eq_ok.mpr ⟨named, rfl, fun visited inside => ?_⟩
  obtain ⟨_, leads⟩ := Location.isPrefix_foldl_enter down (disk.origin path)
  generalize (Path.segments path).foldl Location.enter (disk.origin path) = location at *
  have apart : visited ≠ location := by
    intro same
    exact (tree'.files _ _ present').2 (same ▸ visits visited inside)
  have shorter : visited.length < location.length :=
    lt_of_le_of_ne (leads visited inside).length_le fun same =>
      apart ((leads visited inside).eq_of_length same)
  refine tree.directories _ (tree.files _ _ present).1 visited ?_
  rw [List.dropLast_eq_take, List.prefix_take_iff]
  exact ⟨leads visited inside, Nat.le_sub_one_of_lt shorter⟩

end Disk

end Stencil

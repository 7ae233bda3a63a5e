import Stencil.Proofs.Store.Searches

/-!
# Templates below their directories

A template that is a file lies below one of the directories that are searched. Its name cannot lead
out of the directory: a name that begins with a slash is refused, and so is one with a component of
two dots, whatever other dots and slashes there are.
-/

namespace Stencil

namespace Path

/-! ## Components -/

/-- A component of a path stands between slashes, or between a slash and an end of the path. -/
structure HasComponent (path component : List Char) : Prop where
  whole : '/' ∉ component
  bounded : ∃ before after, path = before ++ component ++ after ∧
    (before = [] ∨ before.getLast? = some '/') ∧ (after = [] ∨ after.head? = some '/')

theorem cutAtSlashes_of_not_mem {path : List Char} (plain : '/' ∉ path) :
    cutAtSlashes path = [path] := by
  induction path with
  | nil => rfl
  | cons first rest ih =>
      rw [List.mem_cons, not_or] at plain
      rw [cutAtSlashes, if_neg (Ne.symm plain.1), ih plain.2]

/-- By the first slash of the path: what is behind it is shorter. -/
theorem hasComponent_of_mem {path component : List Char} (listed : component ∈ cutAtSlashes path) :
    HasComponent path component := by
  by_cases slash : '/' ∈ path
  · obtain ⟨first, rest, rfl, plain⟩ := List.eq_append_cons_of_mem slash
    rw [cutAtSlashes_append, cutAtSlashes_of_not_mem plain, List.singleton_append,
      List.mem_cons] at listed
    rcases listed with rfl | further
    · exact ⟨plain, [], '/' :: rest, rfl, .inl rfl, .inr rfl⟩
    · obtain ⟨whole, before, after, rfl, starts, ends⟩ := hasComponent_of_mem further
      refine ⟨whole, first ++ '/' :: before, after, by simp, .inr ?_, ends⟩
      rcases starts with rfl | slash
      · exact List.getLast?_concat
      · obtain ⟨init, rfl⟩ := List.getLast?_eq_some_iff.mp slash
        rw [← List.cons_append, ← List.append_assoc]
        exact List.getLast?_concat
  · rw [cutAtSlashes_of_not_mem slash, List.mem_singleton] at listed
    subst listed
    exact ⟨slash, [], [], by simp, .inl rfl, .inl rfl⟩
termination_by path.length

theorem HasComponent.mem {path component : List Char} (has : HasComponent path component) :
    component ∈ cutAtSlashes path := by
  obtain ⟨whole, before, after, rfl, starts, ends⟩ := has
  have here : component ∈ cutAtSlashes (component ++ after) := by
    rcases ends with rfl | slash
    · rw [List.append_nil, cutAtSlashes_of_not_mem whole]
      exact List.mem_singleton_self _
    · obtain ⟨rest, rfl⟩ := List.head?_eq_some_iff.mp slash
      rw [cutAtSlashes_append, cutAtSlashes_of_not_mem whole]
      exact List.mem_cons_self
  rcases starts with rfl | slash
  · exact here
  · obtain ⟨init, rfl⟩ := List.getLast?_eq_some_iff.mp slash
    rw [List.append_assoc, List.append_assoc, List.singleton_append, cutAtSlashes_append]
    exact List.mem_append_right _ here

theorem mem_segments_iff {path segment : String} :
    segment ∈ segments path ↔ HasComponent path.toList segment.toList := by
  rw [segments, List.mem_map]
  constructor
  · rintro ⟨part, listed, rfl⟩
    rw [String.toList_ofList]
    exact hasComponent_of_mem listed
  · intro has
    exact ⟨segment.toList, has.mem, String.ofList_toList⟩

theorem climbs_iff {path : String} :
    climbs path = true ↔ HasComponent path.toList ['.', '.'] := by
  rw [climbs, List.contains_iff_mem, mem_segments_iff]
  rfl

theorem isAbsolute_iff {path : String} :
    isAbsolute path = true ↔ path.toList.head? = some '/' :=
  beq_iff_eq

/-- The names on the way that a path leads downwards. -/
def names (path : String) : List String :=
  (segments path).filter fun segment => segment ≠ "" ∧ segment ≠ "."

end Path

/-! ## Resolution -/

namespace Location

theorem foldl_enter_eq {segments : List String} (down : ".." ∉ segments) (location : Location) :
    segments.foldl enter location =
      location ++ segments.filter fun segment => segment ≠ "" ∧ segment ≠ "." := by
  induction segments generalizing location with
  | nil => exact (List.append_nil _).symm
  | cons segment rest ih =>
      rw [List.mem_cons, not_or] at down
      rw [List.foldl_cons, ih down.2, List.filter_cons, enter]
      by_cases stays : segment = "" ∨ segment = "."
      · rw [if_pos stays, if_neg (by simpa [or_iff_not_imp_left] using stays)]
      · rw [if_neg stays, if_neg (Ne.symm down.1),
          if_pos (by simpa using not_or.mp stays), List.append_assoc, List.singleton_append]

theorem visits_append (location : Location) (first second : List String) :
    location.visits (first ++ second) =
      location.visits first ++ (first.foldl enter location).visits second := by
  induction first generalizing location with
  | nil => rfl
  | cons segment rest ih => exact congrArg (location :: ·) (ih _)

end Location

namespace Disk

variable {disk : Disk} {directory name : String} {location : Location} {file : File}

/-- Where a path leads to by its segments alone, whether anything is there or not. -/
def resolve (disk : Disk) (path : String) : Location :=
  (Path.segments path).foldl Location.enter (disk.origin path)

/-- A name in a directory is followed from where the directory is. -/
theorem segments_join (relative : Path.isAbsolute name = false) (disk : Disk)
    (directory : String) :
    disk.origin (Path.join directory name) = disk.origin directory ∧
      ∃ front, Path.segments (Path.join directory name) = front ++ Path.segments name ∧
        front.foldl Location.enter (disk.origin directory) = disk.resolve directory := by
  have started (rest : String) (nonempty : directory.isEmpty = false) :
      disk.origin (directory ++ rest) = disk.origin directory := by
    have named : directory.toList ≠ [] := by simpa using nonempty
    rw [origin, origin, Path.isAbsolute, Path.isAbsolute, String.toList_append,
      List.head?_append_of_ne_nil _ named]
  unfold Path.join
  rw [relative, Bool.false_or]
  split
  · next empty =>
      obtain rfl := String.isEmpty_iff.mp empty
      refine ⟨?_, [], rfl, rfl⟩
      rw [origin, relative]
      rfl
  · next nonempty =>
      have nonempty := Bool.eq_false_iff.mpr nonempty
      split
      · next slash =>
          obtain ⟨init, whole⟩ := List.getLast?_eq_some_iff.mp slash
          refine ⟨started name nonempty, (Path.cutAtSlashes init).map .ofList, ?_, ?_⟩
          · rw [Path.segments, String.toList_append, whole, List.append_assoc,
              List.singleton_append, Path.cutAtSlashes_append, List.map_append]
            rfl
          · rw [resolve, Path.segments, whole, Path.cutAtSlashes_append, List.map_append,
              List.foldl_append]
            rfl
      · refine ⟨?_, Path.segments directory, ?_, rfl⟩
        · rw [String.append_assoc]
          exact started ("/" ++ name) nonempty
        · rw [Path.segments, String.toList_append, String.toList_append, List.append_assoc]
          exact (congrArg _ (Path.cutAtSlashes_append _ _)).trans List.map_append

/-- A name that leads somewhere in a directory leads downwards from it. -/
theorem eq_append_of_locate_join (relative : Path.isAbsolute name = false)
    (plain : Path.climbs name = false)
    (located : disk.locate (Path.join directory name) = .ok location) :
    location = disk.resolve directory ++ Path.names name ∧
      disk.resolve directory ∈ disk.directories := by
  obtain ⟨-, there, visits⟩ := locate_eq_ok.mp located
  obtain ⟨origin, front, whole, leads⟩ := segments_join relative disk directory
  rw [origin, whole] at there visits
  have down : ".." ∉ Path.segments name := by
    rwa [Path.climbs, List.contains_eq_mem, decide_eq_false_iff_not] at plain
  rw [List.foldl_append, leads, Location.foldl_enter_eq down] at there
  rw [Location.visits_append, leads, List.forall_mem_append] at visits
  refine ⟨there, visits.2 _ ?_⟩
  cases segments : Path.segments name with
  | nil => exact absurd (List.map_eq_nil_iff.mp segments) (Path.cutAtSlashes_ne_nil _)
  | cons first rest => exact List.mem_cons_self

/-! ## Templates -/

/-- A name is that of a file in a directory that is searched, and in none of those before it. -/
structure FirstFile (disk : Disk) (directories : List String) (name directory : String)
    (location : Location) (file : File) : Prop where
  first : ∃ before after, directories = before ++ directory :: after ∧
    ∀ earlier ∈ before, disk.isFile (Path.join earlier name) = false
  located : disk.locate (Path.join directory name) = .ok location
  present : disk.file? location = some file

/-- The file of a name has other names below the directory, one at least. -/
theorem FirstFile.below {directories : List String} (tree : disk.Tree)
    (relative : Path.isAbsolute name = false) (plain : Path.climbs name = false)
    (found : disk.FirstFile directories name directory location file) :
    location = disk.resolve directory ++ Path.names name ∧ Path.names name ≠ [] := by
  obtain ⟨there, inside⟩ := eq_append_of_locate_join relative plain found.located
  refine ⟨there, fun none => ?_⟩
  rw [none, List.append_nil] at there
  exact (tree.files _ _ found.present).2 (there ▸ inside)

end Disk

namespace Sources

variable (directories : List String) (disk : Disk) {name : String}

/-- A name that is not refused is that of no file, or of a file that is first. -/
theorem onDisk_eq (relative : Path.isAbsolute name = false) (plain : Path.climbs name = false) :
    ((∀ directory ∈ directories, disk.isFile (Path.join directory name) = false) ∧
        onDisk directories disk name = .error (.notFound name)) ∨
      ∃ directory location file, disk.FirstFile directories name directory location file ∧
        onDisk directories disk name =
          match Text.ofUtf8? file.content with
          | some content => .ok ⟨content, file.modified⟩
          | none => .error (.unreadable name ReadError.notText.message) := by
  unfold onDisk locate
  rw [relative, plain, if_neg Bool.false_ne_true, if_neg Bool.false_ne_true]
  cases found : (directories.map (Path.join · name)).find? disk.isFile with
  | none =>
      rw [List.find?_eq_none] at found
      refine .inl ⟨fun directory searched => ?_, rfl⟩
      exact Bool.eq_false_iff.mpr (found _ (List.mem_map_of_mem searched))
  | some path =>
      obtain ⟨isFile, before, after, whole, hidden⟩ := List.find?_eq_some_iff_append.mp found
      obtain ⟨front, more, rfl, rfl, split⟩ := List.map_eq_append_iff.mp whole
      obtain ⟨directory, behind, rfl, rfl, rfl⟩ := List.map_eq_cons_iff.mp split
      obtain ⟨location, file, located, present⟩ := Disk.isFile_iff.mp isFile
      refine .inr ⟨directory, location, file, ⟨⟨front, behind, rfl, ?_⟩, located, present⟩, ?_⟩
      · intro earlier inside
        simpa using hidden _ (List.mem_map_of_mem inside)
      · have read := Disk.read_eq_ok.mpr ⟨location, located, present⟩
        simp only [Disk.readText, read, bind, Except.bind]
        cases Text.ofUtf8? file.content with
        | some content => rfl
        | none => rfl

end Sources

/-- Templates lie below the directories that are searched. What is fetched is the text of the first
file that the name leads to, and the location of that file is the one of the directory, followed by
the names in the name of the template, of which there is at least one. A name that begins with a
slash is refused as absolute, and any other with a component of two dots as leading to a parent. No
other name is refused: it is fetched unless it is the name of no file, or of one that is no text. -/
theorem templates_confined {disk : Disk} (tree : disk.Tree) (directories : List String)
    (name : String) :
    let fetched := (Sources.files directories disk).fetch name
    let isAbsolute := name.toList.head? = some '/'
    let climbs := Path.HasComponent name.toList ['.', '.']
    (∀ source, fetched = .ok source → ∃ directory location file,
      disk.FirstFile directories name directory location file ∧
        location = disk.resolve directory ++ Path.names name ∧ Path.names name ≠ [] ∧
        Text.ofUtf8? file.content = some source.content ∧ file.modified = source.modified) ∧
    (isAbsolute → fetched = .error (.absolutePath name)) ∧
    (¬isAbsolute → climbs → fetched = .error (.parentDirectory name)) ∧
    (¬isAbsolute → ¬climbs →
      ((∀ directory ∈ directories, disk.isFile (Path.join directory name) = false) ∧
        fetched = .error (.notFound name)) ∨
      ∃ directory location file, disk.FirstFile directories name directory location file ∧
        fetched = match Text.ofUtf8? file.content with
          | some content => .ok ⟨content, file.modified⟩
          | none => .error (.unreadable name ReadError.notText.message)) := by
  intro fetched isAbsolute climbs
  have opened {p : Prop} {b : Bool} (same : b = true ↔ p) : ¬p → b = false :=
    fun fails => Bool.eq_false_iff.mpr (fails ∘ same.mp)
  have absolute : isAbsolute → fetched = .error (.absolutePath name) := by
    intro slash
    simp only [fetched, Sources.fetch, Sources.onDisk, Sources.locate,
      Path.isAbsolute_iff.mpr slash, if_true]
  have climbing : ¬isAbsolute → climbs → fetched = .error (.parentDirectory name) := by
    intro relative up
    simp [fetched, Sources.fetch, Sources.onDisk, Sources.locate,
      opened Path.isAbsolute_iff relative, Path.climbs_iff.mpr up]
  have other : ¬isAbsolute → ¬climbs → _ := fun relative plain =>
    Sources.onDisk_eq directories disk (opened Path.isAbsolute_iff relative)
      (opened Path.climbs_iff plain)
  refine ⟨fun source successful => ?_, absolute, climbing, other⟩
  by_cases slash : isAbsolute
  · cases (absolute slash).symm.trans successful
  by_cases up : climbs
  · cases (climbing slash up).symm.trans successful
  rcases other slash up with ⟨-, missed⟩ | ⟨directory, location, file, found, given⟩
  · cases missed.symm.trans successful
  · obtain ⟨there, named⟩ := found.below tree (opened Path.isAbsolute_iff slash)
      (opened Path.climbs_iff up)
    refine ⟨directory, location, file, found, there, named, ?_⟩
    have same := given.symm.trans successful
    split at same
    · next content decoded =>
        cases same
        exact ⟨decoded, rfl⟩
    · cases same

/-- A page whose names are full of dots, in a directory beside the working directory. -/
def site : Disk :=
  (Disk.empty ["home"]).write "../site/..x/a..b" ⟨Text.utf8 "page", ⟨5⟩⟩

theorem site_confined :
    let directories := ["missing", "../site/", "/site"]
    let sources := Sources.files directories site
    site.Tree ∧ sources.fetch "..x//./a..b" = .ok ⟨"page", ⟨5⟩⟩ ∧
      (∃ directory location file,
        site.FirstFile directories "..x//./a..b" directory location file ∧
          location = site.resolve directory ++ ["..x", "a..b"]) ∧
      sources.fetch "/site/..x/a..b" = .error (.absolutePath "/site/..x/a..b") ∧
      sources.fetch "..x/../..x/a..b" = .error (.parentDirectory "..x/../..x/a..b") := by
  intro directories sources
  have tree : site.Tree := Disk.tree_of_forall (by decide +kernel) (by decide +kernel)
  have fetched : sources.fetch "..x//./a..b" = .ok ⟨"page", ⟨5⟩⟩ := by rfl
  obtain ⟨directory, location, file, found, there, -⟩ :=
    (templates_confined tree directories "..x//./a..b").1 _ fetched
  have climbs : Path.HasComponent "..x/../..x/a..b".toList ['.', '.'] :=
    Path.climbs_iff.mp (by decide)
  exact ⟨tree, fetched, ⟨directory, location, file, found, there⟩,
    (templates_confined tree directories "/site/..x/a..b").2.1 (by decide),
    (templates_confined tree directories "..x/../..x/a..b").2.2.1 (by decide) climbs⟩

end Stencil

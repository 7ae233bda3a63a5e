import Stencil.Proofs.Files.Disk
import Stencil.Proofs.Store.Histories

/-!
# Templates in directories

Which file a template is depends on all directories that are searched. A file that was hidden by
another one, and comes to light again, may be older than the code that was made of the other. Then
that code is not found to be out of date; as long as no such file comes to light, it is.
-/

namespace Stencil

/-! ## What a name leads to -/

theorem Sources.locate_eq_ok {directories : List String} {disk : Disk} {name path : String} :
    locate directories disk name = .ok path ↔ Path.isAbsolute name = false ∧
      Path.climbs name = false ∧
        (directories.map (Path.join · name)).find? disk.isFile = some path := by
  unfold locate
  cases Path.isAbsolute name with
  | true => exact ⟨nofun, nofun⟩
  | false =>
      cases Path.climbs name with
      | true => exact ⟨nofun, nofun⟩
      | false =>
          cases (directories.map (Path.join · name)).find? disk.isFile with
          | none => exact ⟨nofun, nofun⟩
          | some found => simp

namespace Disk

variable {disk after : Disk} {directories : List String} {name target : String} {file : File}

/-- A name leads to a file at a location. -/
def Reaches (disk : Disk) (directories : List String) (name : String) (location : Location)
    (file : File) : Prop :=
  ∃ path, Sources.locate directories disk name = .ok path ∧ disk.locate path = .ok location ∧
    disk.file? location = some file

/-- What is fetched is the text of the file that the name leads to. -/
theorem fetch_files_eq_ok {source : Source} :
    (Sources.files directories disk).fetch name = .ok source ↔
      ∃ location file, disk.Reaches directories name location file ∧
        Text.ofUtf8? file.content = some source.content ∧ file.modified = source.modified := by
  obtain ⟨content, modified⟩ := source
  unfold Reaches Sources.fetch Sources.onDisk
  dsimp only
  cases found : Sources.locate directories disk name with
  | error error => exact ⟨nofun, fun ⟨_, _, ⟨_, led, _⟩, _⟩ => nomatch led⟩
  | ok path =>
      have text : disk.readText path = .ok (content, modified) ↔ _ := readText_eq_ok
      simp only [read_eq_ok] at text
      dsimp only
      constructor
      · intro fetched
        split at fetched
        · next content' modified' found =>
            cases fetched
            obtain ⟨file, ⟨location, located, present⟩, decoded, moment⟩ := text.mp found
            exact ⟨location, file, ⟨path, rfl, located, present⟩, decoded, moment⟩
        · cases fetched
      · rintro ⟨location, file, ⟨_, ⟨⟩, located, present⟩, decoded, moment⟩
        rw [text.mpr ⟨file, ⟨location, located, present⟩, decoded, moment⟩]

/-- A name leads to a file that was there before, but to which it did not lead. -/
def Uncovers (disk after : Disk) (directories : List String) (file : File) : Prop :=
  ∃ name location, after.Reaches directories name location file ∧
    disk.file? location = some file ∧ ¬disk.Reaches directories name location file

/-- Nothing comes to light when a file is written, if no directory that is searched leads up. -/
theorem not_uncovers_write (tree : disk.Tree) (tree' : (disk.write target file).Tree)
    (down : ∀ directory ∈ directories, ".." ∉ Path.segments directory) (other : File) :
    ¬disk.Uncovers (disk.write target file) directories other := by
  rintro ⟨name, location, ⟨path, led, located, present'⟩, present, unled⟩
  obtain ⟨relative, plain, first⟩ := Sources.locate_eq_ok.mp led
  obtain ⟨_, before, behind, whole, hidden⟩ := List.find?_eq_some_iff_append.mp first
  have inside : path ∈ directories.map (Path.join · name) := whole ▸ by simp
  obtain ⟨directory, searched, rfl⟩ := List.mem_map.mp inside
  have downwards : ".." ∉ Path.segments (Path.join directory name) := by
    intro climbs
    rcases Path.mem_segments_join climbs with climbs | climbs
    · exact down directory searched climbs
    · rw [Path.climbs, List.contains_eq_mem, decide_eq_false_iff_not] at plain
      exact plain climbs
  have located' := locate_of_locate tree tree' rfl downwards located present present'
  refine unled ⟨_, Sources.locate_eq_ok.mpr ⟨relative, plain, ?_⟩, located', present⟩
  have isFile := isFile_iff.mpr ⟨location, other, located', present⟩
  refine List.find?_eq_some_iff_append.mpr ⟨isFile, before, behind, whole, fun earlier inside => ?_⟩
  have absent := hidden earlier inside
  cases found : disk.isFile earlier with
  | false => rfl
  | true =>
      rw [isFile_write found] at absent
      cases absent

end Disk

/-! ## Changes of a disk -/

namespace Ledger

variable {policy : Policy} {first ledger : Ledger} {sources : Sources}

/-- A file is written, later than all code that was loaded before, or removed. -/
inductive Rewrites (ledger : Ledger) : Sources → Prop where
  | write {directories : List String} {disk : Disk}
      (current : ledger.store.sources = .files directories disk) (path : String) (file : File)
      (later : ∀ code ∈ ledger.given, file.modified.isAfter code.generatedAt = true) :
      Rewrites ledger (.files directories (disk.write path file))
  | remove {directories : List String} {disk after : Disk}
      (current : ledger.store.sources = .files directories disk) (path : String)
      (removed : disk.remove? path = some after) :
      Rewrites ledger (.files directories after)

/-- Files that a change uncovers are later than all code that was loaded before. -/
def UncoversLater (ledger : Ledger) (sources : Sources) : Prop :=
  ∀ directories disk after, ledger.store.sources = .files directories disk →
    sources = .files directories after → ∀ file, disk.Uncovers after directories file →
    ∀ code ∈ ledger.given, file.modified.isAfter code.generatedAt = true

/-- A file is written or removed, and no older file is uncovered. -/
def RewritesOpenly (ledger : Ledger) (sources : Sources) : Prop :=
  ledger.Rewrites sources ∧ ledger.UncoversLater sources

theorem Rewrites.exists_files (rewrites : ledger.Rewrites sources) :
    ∃ directories disk after, ledger.store.sources = .files directories disk ∧
      sources = .files directories after ∧ ∀ location file, after.file? location = some file →
        disk.file? location = some file ∨
          ∀ code ∈ ledger.given, file.modified.isAfter code.generatedAt = true := by
  cases rewrites with
  | @write directories disk current path file later =>
      refine ⟨directories, disk, _, current, rfl, ?_⟩
      intro location other found
      rcases Disk.file?_write found with rfl | before
      · exact .inr later
      · exact .inl before
  | @remove directories disk after current path removed =>
      refine ⟨directories, disk, after, current, rfl, ?_⟩
      intro location other found
      exact .inl (Disk.file?_remove removed found)

theorem RewritesOpenly.announces (rewrites : ledger.RewritesOpenly sources) :
    ledger.Announces sources := by
  obtain ⟨directories, disk, after, current, rfl, before⟩ := rewrites.1.exists_files
  intro name source fetched
  obtain ⟨location, file, reaches, text, moment⟩ := Disk.fetch_files_eq_ok.mp fetched
  rw [current, Disk.fetch_files_eq_ok]
  by_cases led : disk.Reaches directories name location file
  · exact .inl ⟨location, file, led, text, moment⟩
  · have ⟨_, _, _, present⟩ := reaches
    rw [← moment]
    rcases before location file present with present | later
    · exact .inr (.inr (rewrites.2 directories disk after current rfl file
        ⟨name, location, reaches, present, led⟩))
    · exact .inr (.inr later)

/-- As long as no older file is uncovered, a template is loaded as what its text is compiled to at
that moment, unless code is used unverified. -/
theorem current_of_load_files {directories : List String} {disk : Disk} {cache : Cache}
    (verified : policy.strategy ≠ .noVerify) (vacant : policy.Vacant cache)
    (past : Leads policy RewritesOpenly (start (.create (.files directories disk) cache)) ledger)
    {name : String} {code : Code} (loaded : (policy.load name ledger.store).1 = .ok code) :
    ∃ source, ledger.store.sources.fetch name = .ok source ∧
      compileSource policy.dialect policy.optimize code.generatedAt name source.content =
        .ok code := by
  have keeps := past.keeps (.create vacant) fun _ _ => RewritesOpenly.announces
  obtain ⟨_, loads⟩ := policy.loads_load name ledger.store
  have compiled := loads.map_undated keeps.takes (keeps.sound verified name)
  rw [loaded] at compiled
  obtain ⟨source, fetched, made⟩ := Policy.fresh_eq_ok compiled.symm
  exact ⟨source, fetched, compileSource_of_undated made⟩

/-! ## A page that comes to light -/

def searched (disk : Disk) : Sources :=
  .files ["front", "back"] disk

/-- A page at the back. -/
def backPage : Disk :=
  (Disk.empty []).write "back/page" ⟨Text.utf8 "old", ⟨0⟩⟩

/-- A page at the front that hides the one at the back. -/
def frontPage : Disk :=
  backPage.write "front/page" ⟨Text.utf8 "new", ⟨0⟩⟩

/-- Both pages are written, and the one at the front is loaded. -/
def covered : Ledger :=
  (((start (.create (searched (.empty [])) (.memory []))).change (searched backPage)).change
    (searched frontPage)).load reader "page"

theorem covered_sources : covered.store.sources = searched frontPage :=
  (reader.loads_load "page" (.create (searched frontPage) (.memory []))).1.sources

/-- The page at the back is written anew. -/
def renewedPage : Disk :=
  frontPage.write "back/page" ⟨Text.utf8 "renewed", ⟨20⟩⟩

/-- The page at the back is written anew, and comes to light. -/
def renewed : Ledger :=
  (covered.change (searched renewedPage)).change
    (searched { renewedPage with files := [(["back", "page"], ⟨Text.utf8 "renewed", ⟨20⟩⟩)] })

theorem renewed_current_of_load_files :
    Leads reader RewritesOpenly (start (.create (searched (.empty [])) (.memory []))) renewed ∧
      ∃ code, (reader.load "page" renewed.store).1 = .ok code ∧
        ∃ source, renewed.store.sources.fetch "page" = .ok source ∧
          compileSource reader.dialect reader.optimize code.generatedAt "page" source.content =
            .ok code := by
  have opens {ledger : Ledger} (given : ledger.given = []) (sources : Sources) :
      ledger.UncoversLater sources := by
    intro directories disk after _ _ file _
    rw [given]
    exact nofun
  have past : Leads reader RewritesOpenly (start (.create (searched (.empty [])) (.memory [])))
      renewed := by
    refine .change (.change (.load (.change (.change .start ?_) ?_) "page") ?_) ?_
    · exact ⟨.write rfl "back/page" ⟨Text.utf8 "old", ⟨0⟩⟩ nofun, opens rfl _⟩
    · exact ⟨.write rfl "front/page" ⟨Text.utf8 "new", ⟨0⟩⟩ nofun, opens rfl _⟩
    · refine ⟨.write covered_sources "back/page" ⟨Text.utf8 "renewed", ⟨20⟩⟩ ?_, ?_⟩
      · decide +kernel
      intro directories disk after before changed file uncovers
      cases covered_sources.symm.trans before
      cases changed
      have tree : frontPage.Tree := Disk.tree_of_forall (by decide +kernel) (by decide +kernel)
      have tree' : renewedPage.Tree := Disk.tree_of_forall (by decide +kernel) (by decide +kernel)
      exact absurd uncovers (Disk.not_uncovers_write tree tree' (by decide +kernel) file)
    · refine ⟨.remove rfl "front/page" (by decide +kernel), ?_⟩
      rintro directories disk after before ⟨⟩ file ⟨name, location, ⟨_, _, _, present⟩, _⟩
      cases List.mem_singleton.mp (Disk.mem_files present)
      exact (by decide +kernel : ∀ code ∈ covered.given, Time.isAfter ⟨20⟩ code.generatedAt = true)
  obtain ⟨code, loaded⟩ : ∃ code, (reader.load "page" renewed.store).1 = .ok code :=
    ⟨⟨"page", ⟨10⟩, [.printText "renewed", .noop, .halt], []⟩, by decide +kernel⟩
  have verified : reader.strategy ≠ .noVerify := nofun
  exact ⟨past, code, loaded, current_of_load_files verified (.inl rfl) past loaded⟩

/-- The page at the front is removed. -/
def uncovered : Ledger :=
  covered.change (searched { backPage with directories := frontPage.directories })

/-- An older page that comes to light is not noticed. -/
theorem not_current_of_load_files :
    ¬∀ {ledger : Ledger},
      Leads reader Rewrites (start (.create (searched (.empty [])) (.memory []))) ledger →
      ∀ {name : String} {code : Code}, (reader.load name ledger.store).1 = .ok code →
      ∃ source, ledger.store.sources.fetch name = .ok source ∧
        compileSource reader.dialect reader.optimize code.generatedAt name source.content =
          .ok code := by
  intro current
  have past : Leads reader Rewrites (start (.create (searched (.empty [])) (.memory [])))
      uncovered := by
    refine .change (.load (.change (.change .start ?_) ?_) "page") ?_
    · exact .write rfl "back/page" ⟨Text.utf8 "old", ⟨0⟩⟩ nofun
    · exact .write rfl "front/page" ⟨Text.utf8 "new", ⟨0⟩⟩ nofun
    · exact .remove covered_sources "front/page" (by decide +kernel)
  have loaded : (reader.load "page" uncovered.store).1 =
      .ok ⟨"page", ⟨10⟩, [.printText "new", .noop, .halt], []⟩ := by decide +kernel
  obtain ⟨source, fetched, compiled⟩ := current past loaded
  have old : uncovered.store.sources.fetch "page" = .ok ⟨"old", ⟨0⟩⟩ := by rfl
  cases old.symm.trans fetched
  have made : compileSource reader.dialect reader.optimize ⟨10⟩ "page" "old" =
      .ok ⟨"page", ⟨10⟩, [.printText "old", .noop, .halt], []⟩ := by decide +kernel
  exact absurd (made.symm.trans compiled) (by decide)

end Ledger

end Stencil

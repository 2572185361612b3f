import PackageRequires.Proofs.Archive.Shelf
import PackageRequires.Proofs.FileSystem.Growth

namespace PackageRequires

/-! # One snapshot of the files

A library's shelf is the load of the files as they were at the latest step that
loads them (`Loads`).  Which steps these are is told from the history alone: what
a change touches, and which locations are watched by then.  The catalogue is kept
beside the shelf, and no step tells the two apart (`Stocked`).  As long as only
archive files in the archive directories change, every change is noticed, and the
shelf is that of a library which has just been loaded.
-/

namespace FileSystem

variable {files more : FileSystem} {here location target : Location} {path : Text}

theorem mem_newDirectories_iff :
    location ∈ files.newDirectories target ↔
      location <+: target ∧ location ≠ target ∧ files.node? location = none := by
  constructor
  · intro member
    obtain ⟨absent, proper⟩ := mem_newDirectories member
    rw [newDirectories, List.mem_filter, ancestors, List.mem_map] at member
    obtain ⟨⟨depth, -, rfl⟩, -⟩ := member
    exact ⟨List.take_prefix _ _, proper, absent⟩
  · intro between
    obtain ⟨starts, proper, absent⟩ := between
    have below : location.length ≠ 0 := mt List.eq_nil_of_length_eq_zero (ne_nil_of_free absent)
    have short : location.length ≠ target.length := mt starts.eq_of_length proper
    have bound := starts.length_le
    rw [newDirectories, List.mem_filter, ancestors, List.mem_map]
    refine ⟨⟨location.length - 1, List.mem_range.mpr (by omega), ?_⟩, by rw [absent]; rfl⟩
    rw [Nat.sub_add_cancel (by omega)]
    exact (List.prefix_iff_eq_take.mp starts).symm

/-- Nothing but a file is at a location, or nothing at all. -/
def OnlyFileAt (files : FileSystem) (location : Location) : Prop :=
  ∀ entry ∈ files.nodes, location <+: entry.1 → entry.1 = location ∧ entry.2 ≠ .directory

theorem OnlyFileAt.not_within (only : files.OnlyFileAt location) (below : location ≠ [])
    (directory : files.node? here = some .directory) : ¬ location <+: here := by
  intro within
  rw [node?] at directory
  split at directory
  · rename_i root
    rw [List.isEmpty_iff.mp root, List.prefix_nil] at within
    exact below within
  · obtain ⟨front, back, nodes, -⟩ := List.lookup_eq_some_iff.mp directory
    have entry : (here, Node.directory) ∈ files.nodes := by simp [nodes]
    exact (only _ entry within).2 rfl

/-- Every directory is still there. -/
structure KeepsDirectories (files more : FileSystem) : Prop where
  workingDirectory : more.workingDirectory = files.workingDirectory
  directory : ∀ {location}, files.node? location = some .directory →
    more.node? location = some .directory

namespace KeepsDirectories

theorem write (only : files.OnlyFileAt location) (below : location ≠ []) (bytes : ByteArray) :
    KeepsDirectories files (files.write location bytes) := by
  obtain ⟨grows, -⟩ := newDirectories_spec files location
  refine ⟨grows.workingDirectory, ?_⟩
  intro here directory
  have other : here ≠ location := by
    intro same
    exact only.not_within below directory (same ▸ List.prefix_rfl)
  rw [FileSystem.write, node?_put below, if_neg other]
  exact grows.node directory

theorem remove (only : files.OnlyFileAt location) (below : location ≠ []) :
    KeepsDirectories files (files.remove location) where
  workingDirectory := rfl
  directory := by
    intro here directory
    have outside : isWithin here location = false := by
      rw [isWithin, ← Bool.not_eq_true, List.isPrefixOf_iff_prefix]
      exact only.not_within below directory
    have kept := lookup_filter_key files.nodes (fun place => !isWithin place location) here
    rw [node?] at directory ⊢
    rw [FileSystem.remove, kept, outside]
    exact directory

variable (keeps : KeepsDirectories files more)
include keeps

theorem follow {parts : List Text} (followed : files.follow here parts = .ok target)
    (directory : files.node? target = some .directory) : more.follow here parts = .ok target := by
  induction parts generalizing here with
  | nil => exact followed
  | cons part rest ih =>
      obtain ⟨next, enters, later⟩ := follow_cons_eq_ok_iff.mp followed
      have open' : files.node? next = some .directory := by
        by_contra closed
        exact closed (eq_of_follow_of_not_directory closed later ▸ directory)
      refine follow_cons_eq_ok_iff.mpr ⟨next, ?_, ih later⟩
      have here' := keeps.directory enters.directory
      cases enters with
      | stay => exact .stay here'
      | up => exact .up here'
      | down _ notStay notUp _ =>
          exact .down here' notStay notUp (by rw [keeps.directory open']; rfl)

theorem namesDirectory (names : files.NamesDirectory path location) :
    more.NamesDirectory path location := by
  obtain ⟨located, directory⟩ := names
  refine ⟨?_, keeps.directory directory⟩
  rw [locate] at located ⊢
  split at located
  · cases located
  · rename_i nonempty
    rw [if_neg nonempty, keeps.workingDirectory]
    exact keeps.follow located directory

end KeepsDirectories

end FileSystem

namespace Library

/-! ## Steps -/

/-- What a library does or goes through. -/
inductive Step where
  | reload
  /-- The library loads its shelf and begins to watch. -/
  | watch
  | write (path : Text) (bytes : ByteArray)
  | remove (path : Text)

def step (library : Library) : Step → Library
  | .reload => library.reload
  | .watch => library.watch
  | .write path bytes => library.write path bytes
  | .remove path => library.remove path

/-- Takes steps one after another. -/
def run (library : Library) (steps : List Step) : Library := steps.foldl step library

namespace Step

/-- What a step makes of the files. -/
def files (files : FileSystem) : Step → FileSystem
  | .write path bytes => files.write (files.place path) bytes
  | .remove path => files.remove (files.place path)
  | _ => files

/-- A step creates, overwrites or removes what is at a location. -/
inductive Touches (files : FileSystem) : Step → Location → Prop
  | written (path : Text) (bytes : ByteArray) : Touches files (.write path bytes) (files.place path)
  | made {path : Text} {bytes : ByteArray} {location : Location}
      (onTheWay : location <+: files.place path) (proper : location ≠ files.place path)
      (absent : files.node? location = none) : Touches files (.write path bytes) location
  | removed {path : Text} {location : Location} {node : Node}
      (entry : (location, node) ∈ files.nodes) (within : files.place path <+: location) :
      Touches files (.remove path) location

end Step

/-- The files after steps. -/
def filesAfter (files : FileSystem) (steps : List Step) : FileSystem := steps.foldl Step.files files

/-- After these steps a location is watched: a path of the sources led to it when
watching began, and it was not removed since. -/
inductive Watches (sources : Sources) (files : FileSystem) : List Step → Location → Prop
  | begun {steps : List Step} {path : Text} {location : Location}
      (source : path ∈ sources.directories ++ sources.files)
      (located : (filesAfter files steps).locate path = .ok location) :
      Watches sources files (steps ++ [.watch]) location
  | kept {steps : List Step} {step : Step} {location : Location}
      (watches : Watches sources files steps location) (goesOn : step ≠ .watch)
      (stays : ∀ path, step = .remove path → ¬ step.Touches (filesAfter files steps) location) :
      Watches sources files (steps ++ [step]) location

/-- After earlier steps, a step loads the files: it is asked to, or an archive file is
touched that is watched or directly inside a watched directory. -/
inductive Loads (sources : Sources) (files : FileSystem) (before : List Step) : Step → Prop
  | reload : Loads sources files before .reload
  | watch : Loads sources files before .watch
  | change {step : Step} {directory : Location} {name : Text}
      (touches : step.Touches (filesAfter files before) (directory ++ [name]))
      (archive : Path.IsArchiveFile name)
      (reported : Watches sources files before (directory ++ [name]) ∨
        Watches sources files before directory) :
      Loads sources files before step

/-! ## What one step does -/

variable {sources : Sources} {files : FileSystem} {steps : List Step} {library : Library}
  {step : Step} {location : Location}

theorem update_eq (library : Library) (files : FileSystem) (changed : List Location) :
    library.update files changed =
      { library with
        files
        shelf := if changed.any (notices library.watched) then .load files library.sources
          else library.shelf
        catalogue := if changed.any (notices library.watched) then
          (Shelf.load files library.sources).catalogue else library.catalogue } := by
  rw [update]
  split <;> rfl

theorem notices_iff {watched : List Location} :
    notices watched location = true ↔ ∃ directory name, location = directory ++ [name] ∧
      Path.IsArchiveFile name ∧ (directory ++ [name] ∈ watched ∨ directory ∈ watched) := by
  induction location using List.reverseRecOn with
  | nil => simp [notices]
  | append_singleton directory name _ =>
      simp [notices, Path.isArchiveName_iff]

theorem sources_step (library : Library) (step : Step) :
    (library.step step).sources = library.sources := by
  cases step <;> simp [Library.step, reload, watch, write, remove, update_eq]

theorem files_step (library : Library) (step : Step) :
    (library.step step).files = step.files library.files := by
  cases step <;> simp [Library.step, Step.files, reload, watch, write, remove, update_eq]

/-- The locations that a step reports. -/
def Step.changed (files : FileSystem) : Step → List Location
  | .write path _ => files.newDirectories (files.place path) ++ [files.place path]
  | .remove path =>
    (files.nodes.map Prod.fst).filter (FileSystem.isWithin · (files.place path))
  | _ => []

theorem mem_changed_iff : location ∈ step.changed files ↔ step.Touches files location := by
  constructor
  · intro member
    cases step with
    | reload => cases member
    | watch => cases member
    | write path bytes =>
        rw [Step.changed, List.mem_append, FileSystem.mem_newDirectories_iff,
          List.mem_singleton] at member
        rcases member with ⟨onTheWay, proper, absent⟩ | rfl
        · exact .made onTheWay proper absent
        · exact .written path bytes
    | remove path =>
        rw [Step.changed, List.mem_filter, List.mem_map, FileSystem.isWithin,
          List.isPrefixOf_iff_prefix] at member
        obtain ⟨⟨entry, listed, rfl⟩, within⟩ := member
        exact .removed listed within
  · intro touches
    cases touches with
    | written path bytes => exact List.mem_append_right _ List.mem_cons_self
    | made onTheWay proper absent =>
        exact List.mem_append_left _
          (FileSystem.mem_newDirectories_iff.mpr ⟨onTheWay, proper, absent⟩)
    | removed entry within =>
        exact List.mem_filter.mpr
          ⟨List.mem_map.mpr ⟨_, entry, rfl⟩, List.isPrefixOf_iff_prefix.mpr within⟩

/-- Whether a library loads its shelf in a step. -/
def reloads (library : Library) : Step → Bool
  | .reload | .watch => true
  | step => (step.changed library.files).any (notices library.watched)

theorem shelf_step (library : Library) (step : Step) :
    (library.step step).shelf =
      if library.reloads step then .load (step.files library.files) library.sources
      else library.shelf := by
  cases step <;>
    simp only [Library.step, reload, watch, write, remove, update_eq] <;> rfl

theorem reloads_of_touches (touches : step.Touches library.files location)
    (noticed : notices library.watched location = true) : library.reloads step = true := by
  have any := List.any_eq_true.mpr ⟨location, mem_changed_iff.mpr touches, noticed⟩
  cases step with
  | reload => rfl
  | watch => rfl
  | _ => exact any

theorem mem_watched_watch_iff :
    location ∈ (library.step .watch).watched ↔
      ∃ path ∈ library.sources.directories ++ library.sources.files,
        library.files.locate path = .ok location := by
  rw [Library.step, watch, places, List.mem_filterMap]
  apply exists_congr
  intro path
  cases library.files.locate path <;> simp [Except.toOption]

theorem mem_watched_step_iff (goesOn : step ≠ .watch) :
    location ∈ (library.step step).watched ↔ location ∈ library.watched ∧
      ∀ path, step = .remove path → ¬ step.Touches library.files location := by
  cases step with
  | reload => simp [Library.step, reload]
  | watch => exact absurd rfl goesOn
  | write path bytes => simp [Library.step, write, update_eq]
  | remove path =>
      simp only [Library.step, remove, update_eq, List.mem_filter, ← mem_changed_iff, Step.changed]
      simp

/-- The packages in the catalogue are those that the archives on the shelf offer. -/
def Stocked (library : Library) : Prop := library.catalogue = library.shelf.catalogue

theorem stocked_new (sources : Sources) (files : FileSystem) : (new sources files).Stocked := rfl

theorem Stocked.update (stocked : library.Stocked) (files : FileSystem)
    (changed : List Location) : (library.update files changed).Stocked := by
  rw [Library.update]
  split
  · exact catalogue_reload _
  · exact stocked

theorem Stocked.preserved (stocked : library.Stocked) (step : Step) :
    (library.step step).Stocked := by
  cases step with
  | reload => exact library.catalogue_reload
  | watch => exact library.catalogue_reload
  | write path bytes => exact stocked.update _ _
  | remove path => exact stocked.update _ _

/-! ## Histories -/

theorem Stocked.run (stocked : library.Stocked) (steps : List Step) :
    (library.run steps).Stocked := by
  induction steps generalizing library with
  | nil => exact stocked
  | cons step steps ih => exact ih (stocked.preserved step)

theorem run_concat (library : Library) (steps : List Step) (step : Step) :
    library.run (steps ++ [step]) = (library.run steps).step step := by
  simp [run]

theorem filesAfter_concat (files : FileSystem) (steps : List Step) (step : Step) :
    filesAfter files (steps ++ [step]) = step.files (filesAfter files steps) := by
  simp [filesAfter]

theorem sources_run (library : Library) (steps : List Step) :
    (library.run steps).sources = library.sources := by
  induction steps using List.reverseRecOn with
  | nil => rfl
  | append_singleton steps step ih => rw [run_concat, sources_step, ih]

theorem files_run (library : Library) (steps : List Step) :
    (library.run steps).files = filesAfter library.files steps := by
  induction steps using List.reverseRecOn with
  | nil => rfl
  | append_singleton steps step ih => rw [run_concat, files_step, ih, filesAfter_concat]

theorem not_watches_nil : ¬ Watches sources files [] location := by
  intro watches
  generalize none : [] = steps at watches
  cases watches <;> simp at none

theorem watches_concat_iff :
    Watches sources files (steps ++ [step]) location ↔
      (step = .watch ∧ ∃ path ∈ sources.directories ++ sources.files,
        (filesAfter files steps).locate path = .ok location) ∨
      (step ≠ .watch ∧ Watches sources files steps location ∧
        ∀ path, step = .remove path → ¬ step.Touches (filesAfter files steps) location) := by
  constructor
  · intro watches
    generalize whole : steps ++ [step] = history at watches
    cases watches with
    | begun source located =>
        obtain ⟨rfl, same⟩ := List.append_inj' whole rfl
        cases same
        exact .inl ⟨rfl, _, source, located⟩
    | kept watches goesOn stays =>
        obtain ⟨rfl, same⟩ := List.append_inj' whole rfl
        cases same
        exact .inr ⟨goesOn, watches, stays⟩
  · intro cause
    rcases cause with ⟨rfl, path, source, located⟩ | ⟨goesOn, watches, stays⟩
    · exact .begun source located
    · exact .kept watches goesOn stays

/-- What a library watches is told from its history. -/
theorem mem_watched_run_iff (sources : Sources) (files : FileSystem) (steps : List Step)
    (location : Location) :
    location ∈ ((new sources files).run steps).watched ↔ Watches sources files steps location := by
  induction steps using List.reverseRecOn generalizing location with
  | nil => simp [run, new, not_watches_nil]
  | append_singleton steps step ih =>
      rw [run_concat, watches_concat_iff]
      by_cases begins : step = .watch
      · subst begins
        rw [mem_watched_watch_iff, sources_run, files_run]
        simp [new]
      · rw [mem_watched_step_iff begins, ih, files_run]
        simp [new, begins]

theorem reloads_run_iff (sources : Sources) (files : FileSystem) (before : List Step)
    (step : Step) :
    ((new sources files).run before).reloads step = true ↔ Loads sources files before step := by
  have current : ((new sources files).run before).files = filesAfter files before :=
    files_run _ before
  constructor
  · intro reloads
    have noticed (changes : (step.changed (filesAfter files before)).any
        (notices ((new sources files).run before).watched) = true) :
        Loads sources files before step := by
      obtain ⟨location, changed, noticed⟩ := List.any_eq_true.mp changes
      obtain ⟨directory, name, rfl, archive, reported⟩ := notices_iff.mp noticed
      rw [mem_watched_run_iff, mem_watched_run_iff] at reported
      exact .change (mem_changed_iff.mp changed) archive reported
    rw [← current] at noticed
    cases step with
    | reload => exact .reload
    | watch => exact .watch
    | write path bytes => exact noticed reloads
    | remove path => exact noticed reloads
  · intro loads
    cases loads with
    | reload => rfl
    | watch => rfl
    | change touches archive reported =>
        rw [← mem_watched_run_iff, ← mem_watched_run_iff] at reported
        rw [← current] at touches
        exact reloads_of_touches touches (notices_iff.mpr ⟨_, _, rfl, archive, reported⟩)

/-- What holds at each step of a history holds at its last step and before. -/
theorem forall_steps_concat_iff (steps : List Step) (step : Step)
    {holds : List Step → Step → Prop} :
    (∀ front later, front ++ [later] <+: steps ++ [step] → holds front later) ↔
      (∀ front later, front ++ [later] <+: steps → holds front later) ∧ holds steps step := by
  constructor
  · intro all
    exact ⟨fun front later begins => all front later (begins.trans (List.prefix_append _ _)),
      all steps step List.prefix_rfl⟩
  · intro parts front later begins
    obtain ⟨earlier, last⟩ := parts
    rcases List.prefix_concat_iff.mp begins with whole | begins
    · obtain ⟨rfl, same⟩ := List.append_inj' whole rfl
      cases same
      exact last
    · exact earlier front later begins

/-- The shelf is empty before the first load, and then that of the latest one. -/
theorem shelf_run (sources : Sources) (files : FileSystem) (steps : List Step) :
    ((∀ front step, front ++ [step] <+: steps → ¬ Loads sources files front step) ∧
      ((new sources files).run steps).shelf = []) ∨
    ∃ before step after, steps = before ++ step :: after ∧ Loads sources files before step ∧
      (∀ front later, front ++ [later] <+: after →
        ¬ Loads sources files (before ++ step :: front) later) ∧
      ((new sources files).run steps).shelf =
        .load (filesAfter files (before ++ [step])) sources := by
  induction steps using List.reverseRecOn with
  | nil => exact .inl ⟨by simp, rfl⟩
  | append_singleton steps step ih =>
      have next := shelf_step ((new sources files).run steps) step
      rw [← run_concat, files_run, sources_run] at next
      have whether := reloads_run_iff sources files steps step
      by_cases loads : Loads sources files steps step
      · refine .inr ⟨steps, step, [], rfl, loads, by simp, ?_⟩
        rw [next, if_pos (whether.mpr loads), filesAfter_concat]
        rfl
      · rw [next, if_neg (mt whether.mp loads)]
        rcases ih with ⟨quiet, empty⟩ | ⟨before, loading, after, rfl, loaded, quiet, snapshot⟩
        · exact .inl ⟨(forall_steps_concat_iff steps step).mpr ⟨quiet, loads⟩, empty⟩
        · exact .inr ⟨before, loading, after ++ [step], by simp, loaded,
            (forall_steps_concat_iff after step).mpr ⟨quiet, loads⟩, snapshot⟩

/-! ## Changes of archive files alone -/

/-- Where a step writes or removes something. -/
def Step.target? (files : FileSystem) : Step → Option Location
  | .write path _ => some (files.place path)
  | .remove path => some (files.place path)
  | _ => none

/-- A step writes and removes nothing but an archive file directly inside one of some
directories. -/
def Step.Tends (inside : Location → Prop) (files : FileSystem) (step : Step) : Prop :=
  ∀ location ∈ step.target? files, files.OnlyFileAt location ∧
    ∃ directory name, inside directory ∧ Path.IsArchiveFile name ∧ location = directory ++ [name]

theorem Step.Tends.ne_nil {inside : Location → Prop} (tends : step.Tends inside files)
    (target : location ∈ step.target? files) : location ≠ [] := by
  obtain ⟨-, directory, name, -, -, rfl⟩ := tends location target
  simp

theorem Step.Tends.keepsDirectories {inside : Location → Prop} (tends : step.Tends inside files) :
    files.KeepsDirectories (step.files files) := by
  cases step with
  | reload => exact ⟨rfl, id⟩
  | watch => exact ⟨rfl, id⟩
  | write path bytes => exact .write (tends _ rfl).1 (tends.ne_nil rfl) bytes
  | remove path => exact .remove (tends _ rfl).1 (tends.ne_nil rfl)

/-- The shelf is the load of the current files, and some archive directories are watched. -/
structure UpToDate (inside : Location → Prop) (library : Library) : Prop where
  shelf : library.shelf = .load library.files library.sources
  named : ∀ location, inside location →
    ∃ directory ∈ library.sources.directories, library.files.NamesDirectory directory location
  watched : ∀ location, inside location → location ∈ library.watched

namespace UpToDate

variable {inside : Location → Prop}

theorem begun (named : ∀ location, inside location →
    ∃ directory ∈ library.sources.directories, library.files.NamesDirectory directory location) :
    UpToDate inside (library.step .watch) where
  shelf := rfl
  named := named
  watched := by
    intro location here
    obtain ⟨directory, source, names⟩ := named location here
    exact mem_watched_watch_iff.mpr ⟨directory, List.mem_append_left _ source, names.1⟩

variable (upToDate : UpToDate inside library)
include upToDate

theorem notices (tends : step.Tends inside library.files)
    (target : location ∈ step.target? library.files) :
    Library.notices library.watched location = true := by
  obtain ⟨-, directory, name, here, archive, rfl⟩ := tends location target
  exact notices_iff.mpr ⟨directory, name, rfl, archive, .inr (upToDate.watched directory here)⟩

/-- Every change is noticed. -/
theorem reloads (tends : step.Tends inside library.files)
    (changes : step.files library.files ≠ library.files) : library.reloads step = true := by
  cases step with
  | reload => rfl
  | watch => rfl
  | write path bytes => exact reloads_of_touches (.written path bytes) (upToDate.notices tends rfl)
  | remove path =>
      -- Only the file itself can be gone, so that it is touched unless nothing was there.
      obtain ⟨only, -⟩ := tends _ rfl
      by_cases present : ∃ entry ∈ library.files.nodes, library.files.place path <+: entry.1
      · obtain ⟨⟨place, node⟩, entry, within⟩ := present
        obtain ⟨rfl, -⟩ := only _ entry within
        exact reloads_of_touches (.removed entry within) (upToDate.notices tends rfl)
      · have untouched : library.files.nodes.filter
            (fun entry => !FileSystem.isWithin entry.1 (library.files.place path)) =
              library.files.nodes := by
          rw [List.filter_eq_self]
          intro entry member
          rw [Bool.not_eq_true', ← Bool.not_eq_true, FileSystem.isWithin,
            List.isPrefixOf_iff_prefix]
          exact fun within => present ⟨entry, member, within⟩
        exact absurd (by rw [Step.files, FileSystem.remove, untouched]) changes

theorem preserved (tends : step.Tends inside library.files) :
    UpToDate inside (library.step step) := by
  have keeps := tends.keepsDirectories
  have named (location : Location) (here : inside location) :
      ∃ directory ∈ (library.step step).sources.directories,
        (library.step step).files.NamesDirectory directory location := by
    obtain ⟨directory, source, names⟩ := upToDate.named location here
    rw [sources_step, files_step]
    exact ⟨directory, source, keeps.namesDirectory names⟩
  by_cases begins : step = .watch
  · subst begins
    exact begun named
  refine ⟨?_, named, ?_⟩
  · rw [shelf_step, files_step, sources_step]
    split
    · rfl
    · rename_i quiet
      have same : step.files library.files = library.files := by
        by_contra changes
        exact quiet (upToDate.reloads tends changes)
      rw [same, upToDate.shelf]
  · intro location here
    refine (mem_watched_step_iff begins).mpr ⟨upToDate.watched location here, ?_⟩
    intro path removes touches
    subst removes
    cases touches with
    | removed entry within =>
        obtain ⟨directory, -, names⟩ := upToDate.named location here
        exact (tends _ rfl).1.not_within (tends.ne_nil rfl) names.2 within

end UpToDate

/-- As long as nothing changes but archive files in the archive directories, the shelf
is up to date. -/
theorem upToDate_run {inside : Location → Prop} {steps : List Step}
    (upToDate : UpToDate inside library)
    (tends : ∀ front step, front ++ [step] <+: steps →
      step.Tends inside (filesAfter library.files front)) :
    UpToDate inside (library.run steps) := by
  induction steps using List.reverseRecOn with
  | nil => exact upToDate
  | append_singleton steps step ih =>
      obtain ⟨earlier, last⟩ := (forall_steps_concat_iff steps step).mp tends
      rw [run_concat]
      apply (ih earlier).preserved
      rwa [files_run]

/-- A library holds the whole load of some files: the archives of the sources in their
order, and under each name the package that wins. -/
structure Holds (library : Library) (files : FileSystem) (sources : Sources) : Prop where
  shelf : Arranged files sources library.shelf
  catalogue : ∀ name package,
    library.catalogue.get? name = some package ↔ library.shelf.Stores name package

theorem Stocked.holds (stocked : library.Stocked) (loaded : library.shelf = .load files sources) :
    library.Holds files sources where
  shelf := arranged_iff.mpr loaded
  catalogue name package := by rw [stocked, Shelf.get?_catalogue_iff]

/-- What a library holds is the load of one snapshot of the files: that of the latest
step that loads them, or nothing.  Once the library watches, and as long as nothing
changes but archive files in the archive directories that were there by then, it is
what a new library would load. -/
theorem shelf_of_one_snapshot (sources : Sources) (files : FileSystem) (steps : List Step) :
    let library := (new sources files).run steps
    (((∀ front step, front ++ [step] <+: steps → ¬ Loads sources files front step) ∧
        library.shelf = [] ∧ library.catalogue = .empty) ∨
      ∃ before step after, steps = before ++ step :: after ∧ Loads sources files before step ∧
        (∀ front later, front ++ [later] <+: after →
          ¬ Loads sources files (before ++ step :: front) later) ∧
        library.Holds (filesAfter files (before ++ [step])) sources ∧
        library.shelf = .load (filesAfter files (before ++ [step])) sources ∧
        library.catalogue = (Shelf.load (filesAfter files (before ++ [step])) sources).catalogue) ∧
    ∀ before after, steps = before ++ .watch :: after →
      (∀ front step, front ++ [step] <+: after →
        step.Tends
          (fun location => ∃ directory ∈ sources.directories,
            (filesAfter files before).NamesDirectory directory location)
          (filesAfter files (before ++ .watch :: front))) →
      library.files = filesAfter files steps ∧
        library.Holds library.files sources ∧
        library.shelf = (new sources library.files).reload.shelf ∧
        library.catalogue = (new sources library.files).reload.catalogue := by
  intro library
  have stocked : library.Stocked := (stocked_new sources files).run steps
  constructor
  · rcases shelf_run sources files steps with ⟨quiet, empty⟩ |
      ⟨before, step, after, whole, loads, quiet, snapshot⟩
    · exact .inl ⟨quiet, empty, stocked.trans (congrArg Shelf.catalogue empty)⟩
    · exact .inr ⟨before, step, after, whole, loads, quiet, stocked.holds snapshot, snapshot,
        stocked.trans (congrArg Shelf.catalogue snapshot)⟩
  · intro before after whole tends
    have current : library.files = filesAfter files steps := files_run _ steps
    have files_watch (front : List Step) :
        filesAfter (((new sources files).run before).step .watch).files front =
          filesAfter files (before ++ .watch :: front) := by
      rw [files_step, files_run]
      simp [filesAfter, Step.files, new]
    have rest : library = (((new sources files).run before).step .watch).run after := by
      simp [library, whole, run]
    have upToDate : UpToDate (fun location => ∃ directory ∈ sources.directories,
        (filesAfter files before).NamesDirectory directory location) library := by
      rw [rest]
      apply upToDate_run
      · apply UpToDate.begun
        intro location here
        rw [sources_run, files_run]
        exact here
      · intro front step begins
        rw [files_watch]
        exact tends front step begins
    have same := upToDate.shelf
    rw [show library.sources = sources from sources_run _ steps] at same
    exact ⟨current, stocked.holds same, same, stocked.trans (congrArg Shelf.catalogue same)⟩

/-! An archive with a package that the built-in one has as well. -/

def override : Step := .write "/d/a.toml".toList
  "[archive]\nname = \"own\"\n\n[[packages]]\nname = \"seq\"\nversion = \"9\"\n".toUTF8

/-- In an empty archive directory the archive is written, and removed again. -/
theorem shelf_of_one_snapshot_rewritten :
    let sources : Sources := ⟨["/d".toList], []⟩
    let files : FileSystem := ⟨[(["d".toList], .directory)], []⟩
    let inside (location : Location) := ∃ directory ∈ sources.directories,
      (filesAfter files []).NamesDirectory directory location
    let written := (new sources files).run [.watch, override]
    let removed := (new sources files).run [.watch, override, .remove "/d/a.toml".toList]
    (∀ front step, front ++ [step] <+: [override, .remove "/d/a.toml".toList] →
      step.Tends inside (filesAfter files (.watch :: front))) ∧
      written.Holds written.files sources ∧
      written.catalogue.get? "seq".toList =
        some ⟨"seq".toList, some "9".toList, none, "own".toList⟩ ∧
      removed.Holds removed.files sources ∧
      removed.shelf = (new sources removed.files).reload.shelf ∧
      removed.catalogue.get? "seq".toList = some ⟨"seq".toList, some "2.24".toList,
        some "Sequence manipulation functions".toList, "gnu".toList⟩ := by
  intro sources files inside written removed
  have here : inside ["d".toList] := ⟨"/d".toList, List.mem_cons_self, rfl, rfl⟩
  have archive : Path.IsArchiveFile "a.toml".toList := by decide
  have free : files.OnlyFileAt ["d".toList, "a.toml".toList] := by
    simp [FileSystem.OnlyFileAt, files]
  have first : ∀ front step, front ++ [step] <+: [override] →
      step.Tends inside (filesAfter files (.watch :: front)) := by
    refine (forall_steps_concat_iff [] _).mpr ⟨by simp, ?_⟩
    intro location target
    cases target
    exact ⟨free, _, _, here, archive, rfl⟩
  have both : ∀ front step, front ++ [step] <+: [override, .remove "/d/a.toml".toList] →
      step.Tends inside (filesAfter files (.watch :: front)) := by
    refine (forall_steps_concat_iff [_] _).mpr ⟨first, ?_⟩
    intro location target
    cases target
    refine ⟨?_, _, _, here, archive, rfl⟩
    change FileSystem.OnlyFileAt ⟨[(["d".toList], .directory),
      (["d".toList, "a.toml".toList], .file _)], []⟩ ["d".toList, "a.toml".toList]
    simp [FileSystem.OnlyFileAt]
  have afterWrite := (shelf_of_one_snapshot sources files _).2 [] [override] rfl first
  have afterRemoval := (shelf_of_one_snapshot sources files _).2 [] [override, _] rfl both
  exact ⟨both, afterWrite.2.1, by decide +kernel, afterRemoval.2.1, afterRemoval.2.2.1,
    by decide +kernel⟩

end Library

end PackageRequires

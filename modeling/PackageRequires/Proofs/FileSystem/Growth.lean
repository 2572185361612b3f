import PackageRequires.Proofs.FileSystem

namespace PackageRequires.FileSystem

/-! # Files that are added

A file system grows if everything in it stays where it is.  A path that leads
somewhere still leads there, and so writing a file where nothing was changes no
other file.
-/

variable {files more : FileSystem} {here location target : Location} {path content : Text}
  {bytes : ByteArray}

/-- Every node and every entry of a directory is still there. -/
structure Grows (files more : FileSystem) : Prop where
  workingDirectory : more.workingDirectory = files.workingDirectory
  node : ∀ {location node}, files.node? location = some node → more.node? location = some node
  child : ∀ {directory name}, name ∈ files.children directory → name ∈ more.children directory

namespace Grows

theorem refl (files : FileSystem) : Grows files files := ⟨rfl, id, id⟩

variable (grows : Grows files more)
include grows

theorem enters {part : Text} (enters : Enters files here part target) :
    Enters more here part target := by
  have directory := grows.node enters.directory
  cases enters with
  | stay => exact .stay directory
  | up => exact .up directory
  | down _ notStay notUp present =>
      obtain ⟨node, found⟩ := Option.isSome_iff_exists.mp present
      exact .down directory notStay notUp (by rw [grows.node found]; rfl)

theorem follow {parts : List Text} (followed : files.follow here parts = .ok target) :
    more.follow here parts = .ok target := by
  induction parts generalizing here with
  | nil => exact followed
  | cons part rest ih =>
      obtain ⟨next, entered, later⟩ := follow_cons_eq_ok_iff.mp followed
      exact follow_cons_eq_ok_iff.mpr ⟨next, grows.enters entered, ih later⟩

theorem locate (located : files.locate path = .ok location) : more.locate path = .ok location := by
  rw [FileSystem.locate] at located ⊢
  split at located
  · cases located
  · rename_i nonempty
    rw [if_neg nonempty, grows.workingDirectory]
    exact grows.follow located

theorem holds (holds : files.Holds path content) : more.Holds path content := by
  obtain ⟨location, bytes, located, found, decoded⟩ := holds
  exact ⟨location, bytes, grows.locate located, grows.node found, decoded⟩

theorem namesDirectory (names : files.NamesDirectory path location) :
    more.NamesDirectory path location :=
  ⟨grows.locate names.1, grows.node names.2⟩

end Grows

/-! ## Writing a file -/

theorem ne_nil_of_free (free : files.node? location = none) : location ≠ [] := by
  intro root
  simp [root, node?] at free

theorem lookup_map_put (nodes : List (Location × Node)) (location here : Location) (node : Node) :
    (nodes.map fun entry => if entry.1 = location then (location, node) else entry).lookup here =
      if here = location then (nodes.lookup here).map fun _ => node else nodes.lookup here := by
  induction nodes with
  | nil => simp
  | cons entry nodes ih =>
      obtain ⟨place, old⟩ := entry
      rw [List.map_cons, List.lookup_cons, List.lookup_cons]
      by_cases hit : here = place
      · by_cases replaced : place = location <;> simp [hit, replaced]
      · have miss : (here == place) = false := by simpa using hit
        have passed : (here == (if place = location then (location, node) else (place, old)).1) =
            false := by
          split
          · rename_i replaced
            rwa [← replaced]
          · exact miss
        rw [miss, passed]
        exact ih

theorem node?_put (below : location ≠ []) (node : Node) :
    (files.put location node).node? here =
      if here = location then some node else files.node? here := by
  by_cases root : here = []
  · simp [node?, root, below.symm]
  · simp only [node?, List.isEmpty_iff, root, if_false, put]
    split
    · rename_i present
      rw [lookup_map_put]
      split
      · rename_i hit
        obtain ⟨old, found⟩ := Option.isSome_iff_exists.mp present
        rw [hit, found]
        rfl
      · rfl
    · rename_i absent
      rw [List.lookup_append]
      by_cases hit : here = location
      · rw [hit, Option.not_isSome_iff_eq_none.mp absent]
        simp
      · have miss : (here == location) = false := by simpa using hit
        simp [List.lookup_cons, miss, hit]

theorem children_put {directory : Location} {name : Text} (node : Node)
    (member : name ∈ files.children directory) :
    name ∈ (files.put location node).children directory := by
  obtain ⟨⟨place, old⟩, listed, named⟩ := List.mem_filterMap.mp member
  rw [put, children]
  split
  · apply List.mem_filterMap.mpr
    by_cases replaced : place = location
    · exact ⟨(location, node), List.mem_map.mpr ⟨_, listed, if_pos replaced⟩, replaced ▸ named⟩
    · exact ⟨(place, old), List.mem_map.mpr ⟨_, listed, if_neg replaced⟩, named⟩
  · rw [List.filterMap_append]
    exact List.mem_append_left _ member

/-- A node that takes no other one's place lets the file system grow. -/
theorem grows_put {node : Node} (below : location ≠ [])
    (free : ∀ old, files.node? location = some old → old = node) :
    Grows files (files.put location node) where
  workingDirectory := rfl
  node := by
    intro place old found
    rw [node?_put below]
    split
    · rename_i hit
      rw [free old (hit ▸ found)]
    · exact found
  child := children_put node

theorem Grows.trans {most : FileSystem} (first : Grows files more) (second : Grows more most) :
    Grows files most :=
  ⟨second.workingDirectory.trans first.workingDirectory, fun found => second.node (first.node found),
    fun member => second.child (first.child member)⟩

theorem mem_newDirectories {ancestor : Location} (member : ancestor ∈ files.newDirectories location) :
    files.node? ancestor = none ∧ ancestor ≠ location := by
  rw [newDirectories, List.mem_filter, ancestors, List.mem_map] at member
  obtain ⟨⟨depth, range, rfl⟩, free⟩ := member
  refine ⟨Option.isNone_iff_eq_none.mp free, ?_⟩
  intro whole
  have short := congrArg List.length whole
  rw [List.length_take] at short
  have bound := List.mem_range.mp range
  omega

/-- Making directories where there is none, or where one was made before. -/
theorem makeDirectories_spec {directories : List Location}
    (free : ∀ directory ∈ directories, directory ≠ [] ∧
      ∀ old, files.node? directory = some old → old = .directory) :
    let made := directories.foldl (fun files location => files.put location .directory) files
    Grows files made ∧ ∀ here ∉ directories, made.node? here = files.node? here := by
  induction directories generalizing files with
  | nil => exact ⟨.refl files, fun _ _ => rfl⟩
  | cons directory directories ih =>
      obtain ⟨below, replaced⟩ := free directory List.mem_cons_self
      have first := grows_put below replaced
      have later : ∀ other ∈ directories, other ≠ [] ∧
          ∀ old, (files.put directory .directory).node? other = some old → old = .directory := by
        intro other member
        obtain ⟨belowOther, replacedOther⟩ := free other (List.mem_cons_of_mem _ member)
        refine ⟨belowOther, ?_⟩
        intro old found
        rw [node?_put below] at found
        split at found
        · exact (Option.some.inj found).symm
        · exact replacedOther old found
      obtain ⟨grows, kept⟩ := ih later
      refine ⟨first.trans grows, ?_⟩
      intro here outside
      obtain ⟨different, outside⟩ := not_or.mp (mt List.mem_cons.mpr outside)
      rw [List.foldl_cons, kept here outside, node?_put below, if_neg different]

theorem newDirectories_spec (files : FileSystem) (location : Location) :
    let made := (files.newDirectories location).foldl
      (fun files location => files.put location .directory) files
    Grows files made ∧ made.node? location = files.node? location := by
  have free : ∀ directory ∈ files.newDirectories location, directory ≠ [] ∧
      ∀ old, files.node? directory = some old → old = .directory := by
    intro directory member
    obtain ⟨absent, _⟩ := mem_newDirectories member
    exact ⟨ne_nil_of_free absent, by simp [absent]⟩
  have own : location ∉ files.newDirectories location :=
    fun member => (mem_newDirectories member).2 rfl
  obtain ⟨grows, kept⟩ := makeDirectories_spec free
  exact ⟨grows, kept location own⟩

/-- A file that is written where nothing was leaves everything else in place. -/
theorem grows_write (free : files.node? location = none) (bytes : ByteArray) :
    Grows files (files.write location bytes) := by
  obtain ⟨grows, kept⟩ := newDirectories_spec files location
  refine grows.trans (grows_put (ne_nil_of_free free) ?_)
  rw [kept, free]
  simp

end PackageRequires.FileSystem

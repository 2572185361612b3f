import PackageRequires.FileSystem
import PackageRequires.Proofs.ByteOrder
import PackageRequires.Proofs.Text

namespace PackageRequires

/-! # Reading and listing files

What a path names is found part by part, so what is known of one part carries
over to longer paths: an entry of a directory is named by the directory's path
joined with the entry's name, and a file is a dead end for every path that goes
on behind it.
-/

namespace Path

variable {directory name : Text}

theorem parts_append_slash (front rest : Text) :
    parts (front ++ '/' :: rest) = parts front ++ parts rest :=
  Text.words_append_dividing rfl front rest

theorem parts_slash (directory : Text) : parts (directory ++ ['/']) = parts directory := by
  rw [parts_append_slash, show parts [] = [] from rfl, List.append_nil]

theorem parts_append_name (closed : endsInSlash directory = true) (named : name ≠ [])
    (plain : '/' ∉ name) : parts (directory ++ name) = parts directory ++ [name] := by
  have last : directory.getLast? = some '/' := by simpa [endsInSlash] using closed
  obtain ⟨front, rfl⟩ := List.getLast?_eq_some_iff.mp last
  have inName : ∀ c ∈ name, (c == '/') = false := by
    intro c member
    simpa using fun same : c = '/' => plain (same ▸ member)
  have whole : parts name = [name] := Text.words_of_plain named inName
  rw [parts_slash, List.append_assoc, List.singleton_append, parts_append_slash, whole]

theorem endsInSlash_append_name (front : Text) (named : name ≠ []) (plain : '/' ∉ name) :
    endsInSlash (front ++ name) = false := by
  have last : (front ++ name).getLast? = some (name.getLast named) := by
    rw [List.getLast?_append_of_ne_nil _ named, List.getLast?_eq_some_getLast named]
  have different : name.getLast named ≠ '/' := by
    intro same
    exact plain (same ▸ List.getLast_mem named)
  simp [endsInSlash, last, different]

/-- A joined path goes through the parts of the directory and ends at the name. -/
theorem join_spec (nonempty : directory ≠ []) (named : name ≠ []) (plain : '/' ∉ name) :
    join directory name ≠ [] ∧ parts (join directory name) = parts directory ++ [name] ∧
      isAbsolute (join directory name) = isAbsolute directory ∧
      endsInSlash (join directory name) = false := by
  obtain ⟨first, rest, rfl⟩ := List.exists_cons_of_ne_nil nonempty
  cases closed : endsInSlash (first :: rest) with
  | true =>
      have joined : join (first :: rest) name = first :: rest ++ name := by simp [join, closed]
      rw [joined]
      exact ⟨by simp, parts_append_name closed named plain, rfl,
        endsInSlash_append_name _ named plain⟩
  | false =>
      have joined : join (first :: rest) name = first :: rest ++ ['/'] ++ name := by
        simp [join, closed]
      have slash : endsInSlash (first :: rest ++ ['/']) = true := by
        rw [endsInSlash, List.getLast?_concat]
        rfl
      rw [joined, parts_append_name slash named plain, parts_slash]
      exact ⟨by simp, rfl, rfl, endsInSlash_append_name _ named plain⟩

/-- An archive file's name has something in front of its extension. -/
def IsArchiveFile (name : Text) : Prop := ∃ stem, stem ≠ [] ∧ name = stem ++ ".toml".toList

theorem IsArchiveFile.ordinary (archive : IsArchiveFile name) :
    name ≠ [] ∧ name ≠ ".".toList ∧ name ≠ "..".toList := by
  obtain ⟨stem, _, rfl⟩ := archive
  have long : 5 ≤ (stem ++ ".toml".toList).length := by simp
  refine ⟨?_, ?_, ?_⟩ <;>
    intro same <;> rw [same] at long <;> exact absurd long (by decide)

theorem extension?_toml {stem : Text} (named : stem ≠ []) :
    extension? (stem ++ ".toml".toList) = some "toml".toList := by
  obtain ⟨c, rest, reversed⟩ := List.exists_cons_of_ne_nil (List.reverse_ne_nil_iff.mpr named)
  have turned : (stem ++ ".toml".toList).reverse = "lmot.".toList ++ c :: rest := by
    rw [List.reverse_append, reversed]
    rfl
  have divided : Text.cut (· == '.') ("lmot.".toList ++ c :: rest) =
      ("lmot".toList, some (c :: rest)) := rfl
  rw [extension?, turned, divided]
  rfl

theorem isArchiveName_iff : isArchiveName name = true ↔ IsArchiveFile name := by
  constructor
  · intro archive
    rw [isArchiveName, beq_iff_eq, extension?] at archive
    split at archive
    · rename_i reversed c rest divided
      obtain ⟨_, whole | ⟨mark, after, isDot, found, turned⟩⟩ := Text.cut_spec divided
      · simp at whole
      · obtain rfl : mark = '.' := by simpa using isDot
        obtain rfl : c :: rest = after := by simpa using found
        refine ⟨(c :: rest).reverse, by simp, ?_⟩
        calc name = (reversed ++ '.' :: c :: rest).reverse := by rw [← turned, List.reverse_reverse]
          _ = (c :: rest).reverse ++ '.' :: reversed.reverse := by simp
          _ = (c :: rest).reverse ++ ".toml".toList := by rw [Option.some.inj archive]; rfl
    · cases archive
  · intro archive
    obtain ⟨stem, named, rfl⟩ := archive
    rw [isArchiveName, extension?_toml named]
    rfl

instance : DecidablePred IsArchiveFile := fun _ => decidable_of_iff _ isArchiveName_iff

end Path

namespace FileSystem

variable {files : FileSystem} {here location target : Location} {path content : Text}

/-- One part of a path leads from a directory to the next location. -/
inductive Enters (files : FileSystem) (here : Location) : Text → Location → Prop
  | stay (directory : files.node? here = some .directory) : Enters files here ".".toList here
  | up (directory : files.node? here = some .directory) :
      Enters files here "..".toList here.dropLast
  | down {name : Text} (directory : files.node? here = some .directory)
      (notStay : name ≠ ".".toList) (notUp : name ≠ "..".toList)
      (present : (files.node? (here ++ [name])).isSome) : Enters files here name (here ++ [name])

theorem Enters.directory {part : Text} (enters : Enters files here part target) :
    files.node? here = some .directory := by
  cases enters <;> assumption

theorem follow_cons_eq_ok_iff {part : Text} {rest : List Text} :
    files.follow here (part :: rest) = .ok target ↔
      ∃ next, Enters files here part next ∧ files.follow next rest = .ok target := by
  constructor
  · intro followed
    rw [follow] at followed
    split at followed
    · cases followed
    · cases followed
    · rename_i directory
      split at followed
      · rename_i same
        exact ⟨here, same ▸ .stay directory, followed⟩
      · rename_i notStay
        split at followed
        · rename_i same
          exact ⟨here.dropLast, same ▸ .up directory, followed⟩
        · rename_i notUp
          split at followed
          · rename_i present
            exact ⟨here ++ [part], .down directory notStay notUp present, followed⟩
          · cases followed
  · intro found
    obtain ⟨next, enters, followed⟩ := found
    rw [follow, enters.directory]
    cases enters with
    | stay => simpa using followed
    | up => simpa using followed
    | down _ notStay notUp present =>
        simp only [if_neg notStay, if_neg notUp, if_pos present]
        exact followed

theorem follow_append_eq_ok_iff {front back : List Text} :
    files.follow here (front ++ back) = .ok target ↔
      ∃ middle, files.follow here front = .ok middle ∧ files.follow middle back = .ok target := by
  induction front generalizing here with
  | nil => simp [follow]
  | cons part front ih =>
      simp only [List.cons_append, follow_cons_eq_ok_iff, ih]
      grind

/-- A path ends where there is no directory. -/
theorem eq_of_follow_of_not_directory {parts : List Text}
    (closed : files.node? here ≠ some .directory) (followed : files.follow here parts = .ok target) :
    target = here := by
  cases parts with
  | nil => simpa [follow] using followed.symm
  | cons part rest =>
      obtain ⟨next, enters, _⟩ := follow_cons_eq_ok_iff.mp followed
      exact absurd enters.directory closed

/-- A path names a directory. -/
def NamesDirectory (files : FileSystem) (path : Text) (location : Location) : Prop :=
  files.locate path = .ok location ∧ files.node? location = some .directory

/-- The file at a path holds a text. -/
def Holds (files : FileSystem) (path content : Text) : Prop :=
  ∃ location bytes, files.locate path = .ok location ∧
    files.node? location = some (.file bytes) ∧ Text.ofUtf8? bytes = some content

theorem read_eq_ok_iff : files.read path = .ok content ↔ files.Holds path content := by
  rw [read, Holds]
  cases located : files.locate path with
  | error cause => simp
  | ok location =>
      cases found : files.node? location with
      | none => simp [found]
      | some node =>
          cases node with
          | directory => simp [found]
          | file bytes => cases decoded : Text.ofUtf8? bytes <;> simp [found, decoded]

/-- Names in the order of their bytes. -/
def InOrder (names : List Text) : Prop :=
  names.Pairwise fun first second => first.bytes ≤ second.bytes

theorem bytes_le_iff {first second : Text} :
    first.bytes ≤ second.bytes ↔ (!Text.isBefore second first) = true := by
  rw [← List.not_lt, ← Text.isBefore_iff_bytes_lt]
  simp

theorem inOrder_mergeSort (names : List Text) :
    InOrder (names.mergeSort fun first second => !Text.isBefore second first) := by
  have transitive (first second third : Text) (left : (!Text.isBefore second first) = true)
      (right : (!Text.isBefore third second) = true) : (!Text.isBefore third first) = true := by
    rw [← bytes_le_iff] at left right ⊢
    exact List.le_trans left right
  have total (first second : Text) :
      ((!Text.isBefore second first) || !Text.isBefore first second) = true := by
    rw [Bool.or_eq_true, ← bytes_le_iff, ← bytes_le_iff]
    exact List.le_total first.bytes second.bytes
  apply (List.pairwise_mergeSort transitive total names).imp
  intro first second sorted
  exact bytes_le_iff.mpr sorted

theorem eq_of_inOrder {first second : List Text} (left : InOrder first) (right : InOrder second)
    (same : first.Perm second) : first = second := by
  apply List.Perm.eq_of_pairwise _ left right same
  intro name other _ _ below above
  by_contra different
  have notAfter := bytes_le_iff.mp below
  have notBefore := bytes_le_iff.mp above
  have before := Text.isBefore_of_not_isBefore different (by simpa using notBefore)
  simp [before] at notAfter

/-- The listing of a directory is its entries in the order of their names. -/
theorem list_eq_ok_iff {names : List Text} :
    files.list path = .ok names ↔ ∃ location, files.NamesDirectory path location ∧
      names.Perm (files.children location) ∧ InOrder names := by
  have sorted (location : Location) :
      names = (files.children location).mergeSort (fun first second => !Text.isBefore second first) ↔
        names.Perm (files.children location) ∧ InOrder names := by
    constructor
    · intro same
      rw [same]
      exact ⟨List.mergeSort_perm _ _, inOrder_mergeSort _⟩
    · intro arranged
      exact eq_of_inOrder arranged.2 (inOrder_mergeSort _)
        (arranged.1.trans (List.mergeSort_perm _ _).symm)
  simp only [NamesDirectory, ← sorted, list]
  cases located : files.locate path with
  | error cause => simp
  | ok location =>
      cases found : files.node? location with
      | none => simp [found]
      | some node => cases node <;> simp [found, eq_comm]

theorem NamesDirectory.exists_list (found : files.NamesDirectory path location) :
    ∃ names, files.list path = .ok names ∧ names.Perm (files.children location) ∧
      InOrder names := by
  have sorted := inOrder_mergeSort (files.children location)
  have same := List.mergeSort_perm (files.children location)
    fun first second => !Text.isBefore second first
  exact ⟨_, list_eq_ok_iff.mpr ⟨location, found, same, sorted⟩, same, sorted⟩

theorem NamesDirectory.parts (names : files.NamesDirectory path location) :
    files.follow (if Path.isAbsolute path then [] else files.workingDirectory) (Path.parts path) =
      .ok location := by
  obtain ⟨located, _⟩ := names
  rw [locate] at located
  split at located
  · cases located
  · obtain ⟨middle, first, last⟩ := follow_append_eq_ok_iff.mp located
    split at last
    · obtain ⟨next, enters, done⟩ := follow_cons_eq_ok_iff.mp last
      obtain rfl : next = location := by simpa [follow] using done
      cases enters with
      | stay => exact first
      | down _ notStay => exact absurd rfl notStay
    · obtain rfl : middle = location := by simpa [follow] using last
      exact first

/-- The entry of a directory is at the directory's path joined with its name. -/
theorem NamesDirectory.locate_join {directory name : Text}
    (names : files.NamesDirectory directory location) (archive : Path.IsArchiveFile name)
    (plain : '/' ∉ name) (present : (files.node? (location ++ [name])).isSome) :
    files.locate (Path.join directory name) = .ok (location ++ [name]) := by
  obtain ⟨named, notStay, notUp⟩ := archive.ordinary
  have nonempty : directory ≠ [] := by
    intro none
    have located := names.1
    simp [none, locate] at located
  obtain ⟨whole, parts, absolute, closed⟩ := Path.join_spec nonempty named plain
  rw [locate, if_neg (by simpa using whole), closed, absolute, parts]
  apply follow_append_eq_ok_iff.mpr
  refine ⟨location ++ [name], ?_, rfl⟩
  apply follow_append_eq_ok_iff.mpr
  refine ⟨location, names.parts, ?_⟩
  exact follow_cons_eq_ok_iff.mpr ⟨_, .down names.2 notStay notUp present, rfl⟩

/-- The file system without the entry at one location. -/
def without (files : FileSystem) (location : Location) : FileSystem :=
  { files with nodes := files.nodes.filter fun entry => entry.1 ≠ location }

/-- Entries that are dropped by their locations hide no other entry. -/
theorem lookup_filter_key (nodes : List (Location × Node)) (kept : Location → Bool)
    (wanted : Location) :
    (nodes.filter fun entry => kept entry.1).lookup wanted =
      if kept wanted then nodes.lookup wanted else none := by
  induction nodes with
  | nil => simp
  | cons entry nodes ih =>
      obtain ⟨place, node⟩ := entry
      by_cases keeps : kept place = true
      · rw [List.filter_cons_of_pos (by simpa using keeps), List.lookup_cons, List.lookup_cons, ih]
        by_cases hit : wanted = place
        · simp [hit, keeps]
        · have miss : (wanted == place) = false := by simpa using hit
          rw [miss]
      · rw [List.filter_cons_of_neg (by simpa using keeps), ih, List.lookup_cons]
        by_cases hit : wanted = place
        · simp [hit, keeps]
        · have miss : (wanted == place) = false := by simpa using hit
          rw [miss]

theorem lookup_filter_ne (nodes : List (Location × Node)) (gone wanted : Location) :
    (nodes.filter fun entry => entry.1 ≠ gone).lookup wanted =
      if wanted = gone then none else nodes.lookup wanted := by
  rw [lookup_filter_key nodes (fun place => place ≠ gone)]
  by_cases hit : wanted = gone <;> simp [hit]

theorem node?_without_of_ne (other : here ≠ location) :
    (files.without location).node? here = files.node? here := by
  simp only [node?, without, lookup_filter_ne, if_neg other]

theorem node?_without_self (below : location ≠ []) :
    (files.without location).node? location = none := by
  simp only [node?, without, lookup_filter_ne, List.isEmpty_iff, if_neg below, if_true]

theorem children_without (files : FileSystem) (location directory : Location) :
    (files.without location).children directory =
      (files.children directory).filter fun name => directory ++ [name] ≠ location := by
  simp only [children, without, List.filterMap_filter, List.filter_filterMap]
  apply List.filterMap_congr
  intro entry _
  obtain ⟨place, node⟩ := entry
  by_cases inside : place.dropLast = directory
  · cases last : place.getLast? with
    | none => simp [inside]
    | some name =>
        have whole : directory ++ [name] = place := by
          rw [← inside]
          exact List.dropLast_append_getLast? name last
        simp [inside, whole, Option.filter]
  · simp [inside]

section Without

variable {bytes : ByteArray} (isFile : files.node? location = some (.file bytes))
include isFile

theorem ne_nil_of_isFile : location ≠ [] := by
  intro root
  rw [root] at isFile
  simp [node?] at isFile

theorem directory_without_iff :
    (files.without location).node? here = some .directory ↔ files.node? here = some .directory := by
  by_cases same : here = location
  · rw [same, isFile, node?_without_self (ne_nil_of_isFile isFile)]
    simp
  · rw [node?_without_of_ne same]

theorem enters_without_iff {part : Text} (other : target ≠ location) :
    Enters (files.without location) here part target ↔ Enters files here part target := by
  constructor
  · intro enters
    have directory := (directory_without_iff isFile).mp enters.directory
    cases enters with
    | stay => exact .stay directory
    | up => exact .up directory
    | down _ notStay notUp present =>
        rw [node?_without_of_ne other] at present
        exact .down directory notStay notUp present
  · intro enters
    have directory := (directory_without_iff isFile).mpr enters.directory
    cases enters with
    | stay => exact .stay directory
    | up => exact .up directory
    | down _ notStay notUp present =>
        rw [← node?_without_of_ne other] at present
        exact .down directory notStay notUp present

/-- Only the file itself can no longer be reached. -/
theorem follow_without_iff {parts : List Text} (other : target ≠ location) :
    (files.without location).follow here parts = .ok target ↔
      files.follow here parts = .ok target := by
  induction parts generalizing here with
  | nil => rfl
  | cons part rest ih =>
      simp only [follow_cons_eq_ok_iff, ih]
      apply exists_congr
      intro next
      by_cases same : next = location
      · have stuck : ¬ files.follow next rest = .ok target := by
          intro followed
          have closed : files.node? next ≠ some .directory := by
            rw [same, isFile]
            simp
          exact other ((eq_of_follow_of_not_directory closed followed).trans same)
        simp [stuck]
      · rw [enters_without_iff isFile same]

theorem locate_without_iff (other : target ≠ location) :
    (files.without location).locate path = .ok target ↔ files.locate path = .ok target := by
  rw [locate, locate]
  split
  · rfl
  · exact follow_without_iff isFile other

theorem namesDirectory_without_iff :
    (files.without location).NamesDirectory path here ↔ files.NamesDirectory path here := by
  rw [NamesDirectory, NamesDirectory, directory_without_iff isFile]
  apply and_congr_left
  intro directory
  apply locate_without_iff isFile
  intro same
  rw [same, isFile] at directory
  simp at directory

theorem holds_without_iff :
    (files.without location).Holds path content ↔
      files.Holds path content ∧ files.locate path ≠ .ok location := by
  constructor
  · intro holds
    obtain ⟨place, stored, located, found, decoded⟩ := holds
    have other : place ≠ location := by
      intro same
      rw [same, node?_without_self (ne_nil_of_isFile isFile)] at found
      cases found
    rw [locate_without_iff isFile other] at located
    rw [node?_without_of_ne other] at found
    refine ⟨⟨place, stored, located, found, decoded⟩, ?_⟩
    intro same
    exact other (Except.ok.inj (located.symm.trans same))
  · intro kept
    obtain ⟨⟨place, stored, located, found, decoded⟩, elsewhere⟩ := kept
    have other : place ≠ location := by
      intro same
      exact elsewhere (same ▸ located)
    exact ⟨place, stored, (locate_without_iff isFile other).mpr located,
      (node?_without_of_ne other).trans found, decoded⟩

end Without

end FileSystem

end PackageRequires

import Dockgraph.File.Collect
import Dockgraph.Proofs.Except
import Dockgraph.Proofs.File.Write
import Mathlib.Data.List.Flatten
import Mathlib.Data.List.Nodup

/-! The files that a path stands for. Of a folder these are the Dockerfiles below it, at any depth: every one of them is
listed once, under a path that leads to it. The names in a folder have to be distinct, as they are on a disk. -/

namespace Dockgraph

namespace Path

/-- A name that an entry of a folder can have. -/
structure IsEntryName (name : Text) : Prop extends IsName name where
  slash : '/' ∉ name

/-- The path of something below a folder, by the row of names that leads there. -/
def below (path : Text) (names : List Text) : Text :=
  names.foldl join path

theorem segments_snoc_slash (s : Text) : segments (s ++ ['/']) = segments s ++ [[]] :=
  segments_append_slash s List.not_mem_nil

/-- A path to something in a folder begins as the path to the folder does. -/
theorem join_eq {folder name : Text} (hne : folder ≠ []) (hslash : '/' ∉ name) :
    join folder name = if folder.getLast? = some '/' then folder ++ name else folder ++ '/' :: name := by
  have hname : name.head? ≠ some '/' := fun h => hslash (List.mem_of_head? h)
  have hempty : folder.isEmpty = false := by simpa using hne
  rw [join, if_neg hname, hempty, Bool.false_or]
  split_ifs with h hd hd <;> simp_all

theorem join_ne_nil {folder name : Text} (hne : folder ≠ []) (hslash : '/' ∉ name) : join folder name ≠ [] := by
  rw [join_eq hne hslash]
  split_ifs <;> simp [hne]

end Path

namespace FileTree

open Encoding (Bytes)

/-- What holds of files, and of a folder if it holds of all that is in it, holds of every tree. -/
theorem forall_of_entries {P : FileTree → Prop} (file : ∀ content, P (.file content))
    (folder : ∀ entries, (∀ e ∈ entries, P e.2) → P (.folder entries)) (t : FileTree) : P t :=
  @FileTree.rec P (fun entries => ∀ e ∈ entries, P e.2) (fun e => P e.2) file folder
    (fun _ h => absurd h List.not_mem_nil) (fun _ _ hhead htail => List.forall_mem_cons.2 ⟨hhead, htail⟩)
    (fun _ _ h => h) t

/-- The entries of each folder have distinct names that can be segments of a path. -/
inductive IsProper : FileTree → Prop where
  | file (content : Bytes) : IsProper (.file content)
  | folder {entries : List (Text × FileTree)} (distinct : (entries.map Prod.fst).Nodup)
      (named : ∀ e ∈ entries, Path.IsEntryName e.1) (inside : ∀ e ∈ entries, IsProper e.2) :
      IsProper (.folder entries)

/-- A row of names that leads to a file with the name of a Dockerfile. -/
def LeadsToDockerfile (t : FileTree) (names : List Text) : Prop :=
  (∃ content, t.at? names = some (.file content)) ∧ ∃ name, names.getLast? = some name ∧
    ("Dockerfile".toList <+: name ∨ ".dockerfile".toList <:+ Text.lower name)

/-- Whether the last name of a row is that of a Dockerfile. -/
def endsInDockerfile (names : List Text) : Bool :=
  names.getLast?.any isDockerfileName

variable {entries : List (Text × FileTree)} {name : Text} {names : List Text} {t u : FileTree}

theorem lookup_eq_some_iff_mem (h : (entries.map Prod.fst).Nodup) :
    entries.lookup name = some u ↔ (name, u) ∈ entries := by
  rw [List.lookup_eq_some_iff]
  constructor
  · rintro ⟨before, after, rfl, -⟩
    simp
  · intro hm
    obtain ⟨before, after, rfl⟩ := List.append_of_mem hm
    refine ⟨before, after, rfl, fun e he => ?_⟩
    rw [List.map_append, List.map_cons, List.nodup_append] at h
    exact bne_iff_ne.2 fun heq => h.2.2 e.1 (List.mem_map_of_mem he) name List.mem_cons_self heq.symm

/-! All files of a tree. -/

theorem filesOfEntries_eq (names : List Text) (entries : List (Text × FileTree)) :
    filesOfEntries names entries = entries.flatMap fun e => filesBelow (names ++ [e.1]) e.2 := by
  induction entries with
  | nil => rfl
  | cons e entries ih => rw [filesOfEntries, ih, List.flatMap_cons]

theorem filesBelow_eq (names : List Text) (t : FileTree) :
    filesBelow names t = t.files.map fun f => (names ++ f.1, f.2) := by
  induction t using forall_of_entries generalizing names with
  | file content => simp [files, filesBelow]
  | folder entries ih =>
    rw [files, filesBelow, filesBelow, filesOfEntries_eq, filesOfEntries_eq, List.map_flatMap]
    refine List.flatMap_congr fun e he => ?_
    rw [ih e he, ih e he, List.map_map]
    refine List.map_congr_left fun f _ => ?_
    simp

theorem files_folder (entries : List (Text × FileTree)) : (folder entries).files =
    entries.flatMap fun e => e.2.files.map fun f => (e.1 :: f.1, f.2) := by
  rw [files, filesBelow, filesOfEntries_eq]
  exact List.flatMap_congr fun e _ => filesBelow_eq _ e.2

theorem mem_files (h : t.IsProper) {content : Bytes} :
    (names, content) ∈ t.files ↔ t.at? names = some (.file content) := by
  induction h generalizing names with
  | file c =>
    cases names with
    | nil => simp [files, filesBelow, at?, eq_comm]
    | cons name names => simp [files, filesBelow, at?, child?]
  | @folder entries hdistinct _ _ ih =>
    rw [files_folder, List.mem_flatMap]
    cases names with
    | nil => simp [at?]
    | cons name names =>
      rw [at?, child?, Option.bind_eq_some_iff]
      constructor
      · rintro ⟨e, he, hm⟩
        obtain ⟨f, hf, hrow⟩ := List.mem_map.1 hm
        obtain ⟨⟨rfl, rfl⟩, rfl⟩ := by simpa using hrow
        exact ⟨e.2, (lookup_eq_some_iff_mem hdistinct).2 he, (ih e he).1 hf⟩
      · rintro ⟨u, hu, hat⟩
        have he := (lookup_eq_some_iff_mem hdistinct).1 hu
        exact ⟨(name, u), he, List.mem_map.2 ⟨(names, content), (ih _ he).2 hat, rfl⟩⟩

theorem nodup_files (h : t.IsProper) : (t.files.map Prod.fst).Nodup := by
  induction h with
  | file content => exact List.nodup_singleton _
  | @folder entries hdistinct _ _ ih =>
    rw [files_folder, List.map_flatMap, List.nodup_flatMap]
    refine ⟨fun e he => ?_, ?_⟩
    · have hcons : (e.2.files.map fun f => (e.1 :: f.1, f.2)).map Prod.fst = (e.2.files.map Prod.fst).map (e.1 :: ·) := by
        rw [List.map_map, List.map_map]
        rfl
      rw [hcons]
      exact (ih e he).map (List.cons_injective)
    · refine (List.pairwise_map.1 hdistinct).imp fun {e e'} hne => ?_
      -- rows through different entries begin with different names
      intro row hrow hrow'
      simp only [List.map_map, List.mem_map, Function.comp_apply] at hrow hrow'
      obtain ⟨f, -, rfl⟩ := hrow
      obtain ⟨f', -, hf'⟩ := hrow'
      exact hne (List.cons.inj hf').1.symm

/-! Dockerfiles. -/

theorem endsInDockerfile_iff : endsInDockerfile names = true ↔ ∃ name, names.getLast? = some name ∧
    ("Dockerfile".toList <+: name ∨ ".dockerfile".toList <:+ Text.lower name) := by
  rw [endsInDockerfile, Option.any_eq_true]
  simp only [isDockerfileName, Bool.or_eq_true, List.isPrefixOf_iff_prefix, List.isSuffixOf_iff_suffix]

theorem dockerfiles_eq_flatMap (path : Text) (entries : List (Text × FileTree)) :
    dockerfiles path entries = entries.flatMap fun e => dockerfilesAt path e.1 e.2 := by
  induction entries with
  | nil => rfl
  | cons e entries ih => rw [dockerfiles, ih, List.flatMap_cons]

theorem dockerfilesAt_eq (path name : Text) (t : FileTree) : dockerfilesAt path name t =
    ((t.files.map fun f => name :: f.1).filter endsInDockerfile).map (Path.below path) := by
  induction t using forall_of_entries generalizing path name with
  | file content =>
    have hfile : ((file content).files.map fun f => name :: f.1) = [[name]] := rfl
    have hends : endsInDockerfile [name] = isDockerfileName name := rfl
    rw [hfile, dockerfilesAt, List.filter_singleton, hends]
    cases isDockerfileName name <;> rfl
  | folder entries ih =>
    rw [dockerfilesAt, dockerfiles_eq_flatMap, files_folder, List.map_flatMap, List.filter_flatMap, List.map_flatMap]
    refine List.flatMap_congr fun e he => ?_
    rw [ih e he, List.map_map, List.filter_map, List.filter_map, List.map_map, List.map_map]
    rfl

/-- The Dockerfiles below a folder are those of its files. -/
theorem dockerfiles_eq (path : Text) (entries : List (Text × FileTree)) : dockerfiles path entries =
    (((folder entries).files.map Prod.fst).filter endsInDockerfile).map (Path.below path) := by
  rw [dockerfiles_eq_flatMap, files_folder, List.map_flatMap, List.filter_flatMap, List.map_flatMap]
  refine List.flatMap_congr fun e _ => ?_
  rw [dockerfilesAt_eq, List.map_map]
  rfl

end FileTree

namespace Disk

open FileTree (IsProper LeadsToDockerfile endsInDockerfile)

variable {d : Disk} {path name : Text} {names row : List Text} {entries : List (Text × FileTree)} {t u : FileTree}

/-! Paths below a folder. -/

theorem eq_of_step_nil {names' : List Text} (h : d.step names [] = .ok names') : names' = names := by
  unfold step at h
  split at h
  · cases h
  · cases h
  · exact (Except.ok.inj h).symm

/-- A path to a folder with the name of an entry after it leads to the entry. -/
theorem locate_join (hpath : d.locate path = .ok names) (hfolder : d.root.at? names = some (.folder entries))
    (hname : Path.IsEntryName name) (hentry : entries.lookup name = some u) :
    d.locate (Path.join path name) = .ok (names ++ [name]) := by
  have hne : path ≠ [] := by
    rintro rfl
    cases hpath
  have hstep : d.step names name = .ok (names ++ [name]) := by
    rw [step_name hname.toIsName (FileTree.kindAt_eq_some_true_iff.2 ⟨entries, hfolder⟩), ← isSome_lookup hfolder, hentry]
    rfl
  have hstart : d.startOf (Path.join path name) = d.startOf path := by
    obtain ⟨c, rest, rfl⟩ := List.exists_cons_of_ne_nil hne
    rw [Path.join_eq hne hname.slash, startOf, startOf]
    split_ifs <;> simp_all
  rw [locate, if_neg (by simpa using hne)] at hpath
  rw [locate, if_neg (by simpa using Path.join_ne_nil hne hname.slash), hstart, Path.join_eq hne hname.slash]
  split_ifs with hlast
  · -- the segment after the last slash is empty and leads nowhere else
    obtain ⟨before, rfl⟩ := List.getLast?_eq_some_iff.1 hlast
    rw [Path.segments_snoc_slash, walk_append, bind_eq_ok_iff] at hpath
    obtain ⟨reached, hwalk, hnil⟩ := hpath
    rw [List.append_assoc, List.singleton_append, Path.segments_append_slash _ hname.slash, walk_append, hwalk,
      ← eq_of_step_nil hnil]
    exact hstep
  · rw [Path.segments_append_slash _ hname.slash, walk_append, hpath]
    exact hstep

/-- A row of names that leads through a folder makes a path that leads to the same place. -/
theorem locate_below (hpath : d.locate path = .ok names) (hat : d.root.at? names = some t) (hproper : t.IsProper)
    (hrow : t.at? row = some u) : d.locate (Path.below path row) = .ok (names ++ row) := by
  induction row generalizing path names t with
  | nil => rwa [List.append_nil]
  | cons name row ih =>
    cases hproper with
    | file content => cases hrow
    | @folder entries hdistinct hnamed hinside =>
      rw [FileTree.at?, FileTree.child?, Option.bind_eq_some_iff] at hrow
      obtain ⟨v, hv, hrow⟩ := hrow
      have hentry := (FileTree.lookup_eq_some_iff_mem hdistinct).1 hv
      have hthere : d.root.at? (names ++ [name]) = some v := by
        rw [FileTree.at?_snoc, hat]
        exact hv
      have hbelow := ih (locate_join hpath hat (hnamed _ hentry) hv) hthere (hinside _ hentry) hrow
      rwa [List.append_assoc, List.singleton_append] at hbelow

/-- The files that a path stands for: the file itself, or of a folder each Dockerfile once, by a path that leads to it. -/
inductive StandsFor (d : Disk) (path : Text) : List Text → Prop where
  | file {content : Encoding.Bytes} (there : d.lookup path = .ok (.file content)) : StandsFor d path [path]
  | folder {names : List Text} {entries : List (Text × FileTree)} {rows : List (List Text)} {files : List Text}
      (there : d.locate path = .ok names) (is_folder : d.root.at? names = some (.folder entries)) (once : rows.Nodup)
      (all : ∀ row, row ∈ rows ↔ (FileTree.folder entries).LeadsToDockerfile row)
      (found : ∀ row ∈ rows, d.locate (Path.below path row) = .ok (names ++ row))
      (listed : files.Perm (rows.map (Path.below path))) : StandsFor d path files
  | nothing {trouble : Trouble} (absent : d.lookup path = .error trouble) : StandsFor d path []

theorem isProper_of_at? (h : t.IsProper) (hat : t.at? names = some u) : u.IsProper := by
  induction names generalizing t with
  | nil => exact Option.some.inj hat ▸ h
  | cons name names ih =>
    cases h with
    | file content => cases hat
    | @folder entries hdistinct hnamed hinside =>
      rw [FileTree.at?, FileTree.child?, Option.bind_eq_some_iff] at hat
      obtain ⟨v, hv, hat⟩ := hat
      exact ih (hinside _ ((FileTree.lookup_eq_some_iff_mem hdistinct).1 hv)) hat

/-- What is collected for a path is what it stands for. -/
theorem standsFor_collect (hroot : d.root.IsProper) (path : Text) : StandsFor d path (d.collect path) := by
  unfold collect
  split
  next content h => exact .file h
  next entries h =>
    obtain ⟨names, hlocate, hat⟩ : ∃ names, d.locate path = .ok names ∧ d.root.at? names = some (.folder entries) := by
      unfold Disk.lookup at h
      split at h
      · cases h
      · next names hlocate =>
        split at h
        · next t hat => exact ⟨names, hlocate, Except.ok.inj h ▸ hat⟩
        · cases h
    have hproper := isProper_of_at? hroot hat
    have hall : ∀ row, row ∈ ((FileTree.folder entries).files.map Prod.fst).filter endsInDockerfile ↔
        (FileTree.folder entries).LeadsToDockerfile row := by
      intro row
      simp only [List.mem_filter, List.mem_map, Prod.exists, exists_and_right, exists_eq_right, FileTree.mem_files hproper,
        FileTree.endsInDockerfile_iff, LeadsToDockerfile]
    refine .folder hlocate hat ((FileTree.nodup_files hproper).filter _) hall (fun row hrow => ?_) ?_
    · obtain ⟨⟨content, hrow⟩, -⟩ := (hall row).1 hrow
      exact locate_below hlocate hat hproper hrow
    · rw [FileTree.dockerfiles_eq]
      exact List.mergeSort_perm _ _
  next trouble h => exact .nothing h

end Disk

end Dockgraph

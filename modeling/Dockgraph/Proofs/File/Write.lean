import Dockgraph.File.Disk
import Dockgraph.Proofs.File.Tree
import Mathlib.Data.List.Induction
import Mathlib.Data.List.TakeWhile
import Mathlib.Tactic.SplitIfs

/-! Files that are written. A path can be written to where the folder before its last name is there and holds no folder
of that name. What was written there is read back, and every path that could be written to before still can. -/

namespace Dockgraph

namespace Path

/-! The last name of a path. -/

theorem slash_notMem_baseName (s : Text) : '/' ∉ baseName s := by
  intro h
  have hne := List.mem_takeWhile_imp (List.mem_reverse.1 h)
  simp at hne

/-- A path is its base name, or ends in it after a slash. -/
theorem eq_baseName_or (s : Text) : s = baseName s ∨ ∃ before, s = before ++ '/' :: baseName s := by
  have hsplit := congrArg List.reverse (List.takeWhile_append_dropWhile (p := (· != '/')) (l := s.reverse))
  have hhead := List.head?_dropWhile_not (· != '/') s.reverse
  rw [List.reverse_append, List.reverse_reverse] at hsplit
  cases hdrop : s.reverse.dropWhile (· != '/') with
  | nil =>
    rw [hdrop] at hsplit
    exact Or.inl hsplit.symm
  | cons c t =>
    rw [hdrop] at hsplit hhead
    have hc : c = '/' := by simpa using hhead
    refine Or.inr ⟨t.reverse, ?_⟩
    rw [List.reverse_cons, hc, List.append_assoc] at hsplit
    exact hsplit.symm

theorem segments_ne_nil (s : Text) : segments s ≠ [] := by
  cases s with
  | nil => exact List.cons_ne_nil _ _
  | cons c s =>
    rw [segments]
    split_ifs
    · exact List.cons_ne_nil _ _
    · cases segments s <;> exact List.cons_ne_nil _ _

theorem segments_of_notMem {s : Text} (h : '/' ∉ s) : segments s = [s] := by
  induction s with
  | nil => rfl
  | cons c s ih =>
    rw [List.mem_cons, not_or] at h
    rw [segments, if_neg (Ne.symm h.1), ih h.2]

theorem segments_append_slash (before : Text) {last : Text} (h : '/' ∉ last) :
    segments (before ++ '/' :: last) = segments before ++ [last] := by
  induction before with
  | nil => exact congrArg ([] :: ·) (segments_of_notMem h)
  | cons c before ih =>
    rw [List.cons_append, segments, segments, ih]
    split_ifs
    · rfl
    · obtain ⟨x, rest, hs⟩ := List.exists_cons_of_ne_nil (segments_ne_nil before)
      rw [hs]
      rfl

/-- The last segment is the base name. -/
theorem segments_eq (s : Text) : segments s = (segments s).dropLast ++ [baseName s] := by
  obtain ⟨init, hinit⟩ : ∃ init, segments s = init ++ [baseName s] := by
    rcases eq_baseName_or s with hs | ⟨before, hs⟩
    · exact ⟨[], (congrArg segments hs).trans (segments_of_notMem (slash_notMem_baseName s))⟩
    · exact ⟨segments before, (congrArg segments hs).trans (segments_append_slash before (slash_notMem_baseName s))⟩
  rw [hinit, List.dropLast_concat]

theorem getLast?_ne_slash {s : Text} (h : baseName s ≠ []) : s.getLast? ≠ some '/' := by
  intro hlast
  obtain ⟨before, rfl⟩ := List.getLast?_eq_some_iff.1 hlast
  exact h (by simp [baseName])

theorem dropSlashes_eq_self {s : Text} (hne : s ≠ []) (h : s.getLast? ≠ some '/') : dropSlashes s = s := by
  obtain ⟨before, c, rfl⟩ : ∃ before c, s = before ++ [c] :=
    ⟨s.dropLast, s.getLast hne, (List.dropLast_concat_getLast hne).symm⟩
  have hc : c ≠ '/' := by simpa using h
  have hall : (before ++ [c]).all (· == '/') = false := by simp [hc]
  rw [dropSlashes, hall, if_neg Bool.false_ne_true, List.reverse_append, List.reverse_singleton, List.singleton_append,
    List.dropWhile_cons_of_neg (by simpa using hc)]
  simp

/-- A segment that is the name of an entry. -/
structure IsName (segment : Text) : Prop where
  ne_nil : segment ≠ []
  ne_here : segment ≠ here
  ne_parent : segment ≠ parent

end Path

open Encoding (Bytes)

namespace Disk

variable {d d' : Disk} {path segment : Text} {names names' : List Text}

/-! Steps and walks. -/

theorem isSome_lookup {entries : List (Text × FileTree)} (h : d.root.at? names = some (.folder entries)) :
    (entries.lookup segment).isSome = (d.root.kindAt (names ++ [segment])).isSome := by
  rw [FileTree.kindAt, FileTree.at?_snoc, h, Option.isSome_map]
  rfl

/-- A step depends on what is a folder and what is there at all. -/
theorem step_eq (d : Disk) (names : List Text) (segment : Text) : d.step names segment =
    match d.root.kindAt names with
    | none => .error .notFound
    | some false => .error .notFolder
    | some true =>
      if segment.isEmpty || segment = Path.here then .ok names
      else if segment = Path.parent then .ok names.dropLast
      else if (d.root.kindAt (names ++ [segment])).isSome then .ok (names ++ [segment])
      else .error .notFound := by
  rw [step]
  cases hat : d.root.at? names with
  | none => simp [FileTree.kindAt, hat]
  | some t =>
    cases t with
    | file content => simp [FileTree.kindAt, hat, FileTree.isFolder]
    | folder entries =>
      have hkind : d.root.kindAt names = some true := FileTree.kindAt_eq_some_true_iff.2 ⟨entries, hat⟩
      simp only [hkind, isSome_lookup hat]

theorem kindAt_dropLast (h : d.root.kindAt names = some true) : d.root.kindAt names.dropLast = some true := by
  rcases List.eq_nil_or_concat names with rfl | ⟨init, last, rfl⟩
  · exact h
  · rw [List.concat_eq_append] at h ⊢
    rw [List.dropLast_concat]
    exact FileTree.kindAt_of_kindAt_snoc (by rw [h]; rfl)

/-- A step leads from a folder to a folder, or by its name to what is there. -/
theorem of_step_eq_ok (h : d.step names segment = .ok names') : d.root.kindAt names = some true ∧
    (d.root.kindAt names' = some true ∨
      Path.IsName segment ∧ names' = names ++ [segment] ∧ (d.root.kindAt names').isSome = true) := by
  rw [step_eq] at h
  split at h
  · cases h
  · cases h
  · next hfolder =>
    refine ⟨hfolder, ?_⟩
    split_ifs at h with hstay hup hthere
    · cases h
      exact Or.inl hfolder
    · cases h
      exact Or.inl (kindAt_dropLast hfolder)
    · cases h
      rw [Bool.or_eq_true, not_or] at hstay
      refine Or.inr ⟨⟨?_, ?_, hup⟩, rfl, hthere⟩
      · simpa using hstay.1
      · simpa using hstay.2

theorem step_name (hname : Path.IsName segment) (hfolder : d.root.kindAt names = some true) :
    d.step names segment =
      if (d.root.kindAt (names ++ [segment])).isSome then .ok (names ++ [segment]) else .error .notFound := by
  rw [step_eq, hfolder]
  simp [hname.ne_nil, hname.ne_here, hname.ne_parent]

/-- What is not found in a folder is not there by its name. -/
theorem of_step_eq_notFound (hfolder : d.root.kindAt names = some true)
    (h : d.step names segment = .error .notFound) :
    Path.IsName segment ∧ d.root.kindAt (names ++ [segment]) = none := by
  rw [step_eq, hfolder] at h
  dsimp only at h
  split_ifs at h with hstay hup hthere
  rw [Bool.or_eq_true, not_or] at hstay
  refine ⟨⟨?_, ?_, hup⟩, by simpa using hthere⟩
  · simpa using hstay.1
  · simpa using hstay.2

theorem walk_append (names : List Text) (segments : List Text) (segment : Text) :
    d.walk names (segments ++ [segment]) = d.walk names segments >>= fun reached => d.step reached segment := by
  rw [walk, List.foldlM_append]
  simp [walk]

/-- What a walk from a folder reaches is there. -/
theorem isSome_of_walk {segments : List Text} (hfolder : d.root.kindAt names = some true)
    (h : d.walk names segments = .ok names') : (d.root.kindAt names').isSome = true := by
  induction segments using List.reverseRecOn generalizing names' with
  | nil =>
    cases h
    rw [hfolder]
    rfl
  | append_singleton segments segment ih =>
    rw [walk_append] at h
    cases hw : d.walk names segments with
    | error t => rw [hw] at h; cases h
    | ok reached =>
      rw [hw] at h
      rcases (of_step_eq_ok h).2 with hfolder | ⟨-, -, hthere⟩
      · rw [hfolder]
        rfl
      · exact hthere

/-! Places for files. -/

/-- A path that can be written to: it leads to a folder that is there, and its last name stands for no folder in it. -/
structure Takes (d : Disk) (path : Text) (folder : List Text) : Prop where
  nonempty : path ≠ []
  name : Path.IsName (Path.baseName path)
  walk : d.walk (d.startOf path) (Path.segments path).dropLast = .ok folder
  place : d.root.TakesFile (folder ++ [Path.baseName path])

theorem Takes.folder_there {folder : List Text} (h : d.Takes path folder) : d.root.kindAt folder = some true := by
  have hf := h.place.folder
  rwa [List.dropLast_concat] at hf

theorem locate_eq (d : Disk) (hne : path ≠ []) : d.locate path =
    d.walk (d.startOf path) (Path.segments path).dropLast >>= fun folder => d.step folder (Path.baseName path) := by
  rw [locate, if_neg (by simpa using hne), Path.segments_eq, walk_append, List.dropLast_concat]

theorem Takes.locate {folder : List Text} (h : d.Takes path folder) : d.locate path =
    if (d.root.kindAt (folder ++ [Path.baseName path])).isSome then .ok (folder ++ [Path.baseName path])
    else .error .notFound := by
  rw [locate_eq d h.nonempty, h.walk]
  exact step_name h.name h.folder_there

/-- A path that can be written to leads to its file or to nothing. -/
theorem Takes.lookup {folder : List Text} (h : d.Takes path folder) :
    (∃ content, d.lookup path = .ok (.file content)) ∧ d.locate path = .ok (folder ++ [Path.baseName path]) ∨
      d.lookup path = .error .notFound := by
  have hlocate := h.locate
  have hfree := h.place.free
  unfold Disk.lookup
  rw [FileTree.kindAt] at hlocate hfree
  cases hat : d.root.at? (folder ++ [Path.baseName path]) with
  | none =>
    rw [hat] at hlocate
    rw [hlocate]
    exact Or.inr rfl
  | some t =>
    rw [hat] at hlocate hfree
    rw [hlocate]
    cases t with
    | file content => exact Or.inl ⟨⟨content, by simp [hat]⟩, by simp⟩
    | folder entries => exact absurd rfl hfree

/-- A write to a path that takes files puts the file in its place. -/
theorem Takes.write {folder : List Text} (h : d.Takes path folder) (content : Bytes) :
    d.write path content = .ok (d.put (folder ++ [Path.baseName path]) (.file content)) := by
  have hslash := Path.getLast?_ne_slash h.name.ne_nil
  rcases h.lookup with ⟨⟨old, hold⟩, hlocate⟩ | hnone
  · simp only [Disk.write, hold, hlocate]
  · have hfolder : d.locateFolderOf (Path.dropSlashes path) = .ok folder := by
      rw [locateFolderOf, Path.dropSlashes_eq_self h.nonempty hslash]
      exact h.walk
    simp only [Disk.write, hnone, hfolder]
    rw [if_neg (by simpa using h.nonempty), if_neg hslash]

theorem kindAt_startOf (hhere : d.isFolder Path.here = true) (path : Text) :
    d.root.kindAt (d.startOf path) = some true := by
  have hfolder : d.root.kindAt d.here = some true := by
    cases hstep : d.step d.here Path.here with
    | ok names => exact (of_step_eq_ok hstep).1
    | error t =>
      have hlocate : d.locate Path.here = .error t := by
        rw [locate_eq d (by decide)]
        exact hstep
      simp [isFolder, Disk.lookup, hlocate] at hhere
  rw [startOf]
  split_ifs
  · cases hh : d.here with
    | nil => rw [← hh, hfolder]
    | cons name names =>
      rw [hh] at hfolder
      cases hroot : d.root with
      | file content => rw [hroot] at hfolder; cases hfolder
      | folder entries => rfl
  · exact hfolder

/-- A path that leads to a file can be written to. -/
theorem exists_takes_of_file {content : Bytes} (h : d.lookup path = .ok (.file content)) :
    ∃ folder, d.Takes path folder := by
  have hne : path ≠ [] := by
    rintro rfl
    cases h
  unfold Disk.lookup at h
  cases hlocate : d.locate path with
  | error t => rw [hlocate] at h; cases h
  | ok names =>
    rw [hlocate] at h
    dsimp only at h
    have hfile : d.root.kindAt names = some false := by
      cases hat : d.root.at? names with
      | none => rw [hat] at h; cases h
      | some t =>
        rw [hat] at h
        cases h
        simp [FileTree.kindAt, hat, FileTree.isFolder]
    rw [locate_eq d hne] at hlocate
    cases hw : d.walk (d.startOf path) (Path.segments path).dropLast with
    | error t => rw [hw] at hlocate; cases hlocate
    | ok folder =>
      rw [hw] at hlocate
      obtain ⟨hfolder, hreached⟩ := of_step_eq_ok hlocate
      rw [hfile] at hreached
      obtain ⟨hname, rfl, -⟩ := hreached.resolve_left (by simp)
      refine ⟨folder, hne, hname, hw, by simp, ?_, by simp [hfile]⟩
      rw [List.dropLast_concat]
      exact hfolder

/-- A path to nothing, whose folder is there, can be written to. -/
theorem exists_takes_of_notFound (hhere : d.isFolder Path.here = true) (hne : path ≠ [])
    (h : d.lookup path = .error .notFound)
    (hw : d.walk (d.startOf path) (Path.segments path).dropLast = .ok names) : d.Takes path names := by
  have hlocate := locate_eq d hne
  rw [hw] at hlocate
  have hstep : d.step names (Path.baseName path) = .error .notFound := by
    unfold Disk.lookup at h
    cases hs : d.step names (Path.baseName path) with
    | error t =>
      have ht : d.locate path = .error t := hlocate.trans hs
      rw [ht] at h
      cases h
      rfl
    | ok reached =>
      -- what a step reaches is there
      have ht : d.locate path = .ok reached := hlocate.trans hs
      have hthere : (d.root.kindAt reached).isSome = true := by
        rw [locate, if_neg (by simpa using hne)] at ht
        exact isSome_of_walk (kindAt_startOf hhere path) ht
      rw [FileTree.kindAt, Option.isSome_map] at hthere
      obtain ⟨t, hat⟩ := Option.isSome_iff_exists.1 hthere
      rw [ht] at h
      simp [hat] at h
  have hfolder : d.root.kindAt names = some true := by
    have hthere := isSome_of_walk (kindAt_startOf hhere path) hw
    rw [step_eq] at hstep
    cases hk : d.root.kindAt names with
    | none => rw [hk] at hthere; cases hthere
    | some kind =>
      cases kind with
      | true => rfl
      | false => rw [hk] at hstep; cases hstep
  obtain ⟨hname, hnone⟩ := of_step_eq_notFound hfolder hstep
  refine ⟨hne, hname, hw, by simp, ?_, by simp [hnone]⟩
  rw [List.dropLast_concat]
  exact hfolder

/-- Only paths that take files can be written to. -/
theorem exists_takes_of_write (hhere : d.isFolder Path.here = true) {content : Bytes}
    (h : d.write path content = .ok d') : ∃ folder, d.Takes path folder := by
  unfold Disk.write at h
  split at h
  · cases h
  · next old hfile => exact exists_takes_of_file hfile
  · next hnone =>
    split_ifs at h with hempty hslash
    · split at h <;> cases h
    · have hne : path ≠ [] := by simpa using hempty
      split at h
      · cases h
      next names hw =>
      rw [locateFolderOf, Path.dropSlashes_eq_self hne hslash] at hw
      exact ⟨names, exists_takes_of_notFound hhere hne hnone hw⟩
  · cases h

/-! What a write leaves. -/

/-- Steps go on where folders stay folders and nothing goes away. -/
theorem walk_mono {segments : List Text}
    (hfolder : ∀ ms, d.root.kindAt ms = some true → d'.root.kindAt ms = some true)
    (hthere : ∀ ms, (d.root.kindAt ms).isSome = true → (d'.root.kindAt ms).isSome = true)
    (h : d.walk names segments = .ok names') : d'.walk names segments = .ok names' := by
  induction segments using List.reverseRecOn generalizing names' with
  | nil => exact h
  | append_singleton segments segment ih =>
    rw [walk_append] at h ⊢
    cases hw : d.walk names segments with
    | error t => rw [hw] at h; cases h
    | ok reached =>
      rw [hw] at h
      rw [ih hw]
      change d.step reached segment = .ok names' at h
      change d'.step reached segment = .ok names'
      have hreached := (of_step_eq_ok h).1
      rw [step_eq, hreached] at h
      rw [step_eq, hfolder reached hreached]
      dsimp only at h ⊢
      split_ifs at h with hstay hup hold
      · rw [if_pos hstay]
        exact h
      · rw [if_neg hstay, if_pos hup]
        exact h
      · rw [if_neg hstay, if_neg hup, if_pos (hthere _ hold)]
        exact h

variable {content : Bytes} {folder : List Text}

/-- A path that takes files still does after a file was written. -/
theorem Takes.after_write {other : Text} {folder' : List Text} (h : d.Takes path folder)
    (hother : d.Takes other folder') (hwrite : d.write other content = .ok d') : d'.Takes path folder := by
  rw [hother.write, Except.ok.injEq] at hwrite
  subst hwrite
  have hkind := fun ms => hother.place.kindAt_put content ms
  have hfree := hother.place.free
  have hfolder : ∀ ms, d.root.kindAt ms = some true →
      (d.put (folder' ++ [Path.baseName other]) (.file content)).root.kindAt ms = some true := by
    intro ms hms
    rw [Disk.put, hkind, if_neg (by rintro rfl; exact hfree hms)]
    exact hms
  refine ⟨h.nonempty, h.name, walk_mono hfolder ?_ h.walk, by simp, ?_, ?_⟩
  · intro ms hms
    rw [Disk.put, hkind]
    split_ifs
    · rfl
    · exact hms
  · rw [List.dropLast_concat]
    exact hfolder folder h.folder_there
  · rw [Disk.put, hkind]
    split_ifs
    · simp
    · exact h.place.free

/-- What was written is read back. -/
theorem Takes.read_write (h : d.Takes path folder) (hwrite : d.write path content = .ok d') :
    d'.read path = .ok content := by
  have hafter := h.after_write h hwrite
  rw [h.write, Except.ok.injEq] at hwrite
  have hat : d'.root.at? (folder ++ [Path.baseName path]) = some (.file content) := by
    rw [← hwrite]
    exact h.place.at?_put (.file content)
  have hlocate := hafter.locate
  rw [FileTree.kindAt, hat] at hlocate
  unfold Disk.read Disk.lookup
  rw [hlocate]
  simp [hat]

end Disk

end Dockgraph

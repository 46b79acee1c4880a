import Dockgraph.File.Tree

/-! What a file that is put into a tree changes. At its own place stands the file; everywhere else stands what stood
there before, as far as it is there at all and whether it is a file or a folder. -/

namespace Dockgraph.FileTree

def isFolder : FileTree → Bool
  | .file _ => false
  | .folder _ => true

/-- Whether a folder or a file stands at the end of a row of names, if anything does. -/
def kindAt (t : FileTree) (names : List Text) : Option Bool :=
  (t.at? names).map isFolder

/-- A place for a file: its folder is there, and no folder stands at the place itself. -/
structure TakesFile (t : FileTree) (names : List Text) : Prop where
  named : names ≠ []
  folder : t.kindAt names.dropLast = some true
  free : t.kindAt names ≠ some true

variable {entries : List (Text × FileTree)} {name other : Text} {names : List Text} {t u : FileTree}

/-! Entries. -/

theorem lookup_setEntry_self (u : FileTree) : (setEntry name u entries).lookup name = some u := by
  induction entries with
  | nil => simp [setEntry]
  | cons e entries ih =>
    obtain ⟨n, v⟩ := e
    by_cases hn : n = name
    · simp [setEntry, hn]
    · have hne : (name == n) = false := beq_false_of_ne (Ne.symm hn)
      rw [setEntry, if_neg hn, List.lookup_cons, hne]
      exact ih

theorem lookup_setEntry_ne (h : other ≠ name) (u : FileTree) :
    (setEntry name u entries).lookup other = entries.lookup other := by
  induction entries with
  | nil => simp [setEntry, h]
  | cons e entries ih =>
    obtain ⟨n, v⟩ := e
    by_cases hn : n = name
    · have hne : (other == n) = false := beq_false_of_ne (hn ▸ h)
      rw [setEntry, if_pos hn, List.lookup_cons, List.lookup_cons, hne]
    · rw [setEntry, if_neg hn, List.lookup_cons, List.lookup_cons, ih]

/-! Rows of names. -/

theorem kindAt_nil (t : FileTree) : t.kindAt [] = some t.isFolder := rfl

theorem kindAt_file (content : Encoding.Bytes) (name : Text) (names : List Text) :
    (file content).kindAt (name :: names) = none := rfl

theorem kindAt_folder_cons (entries : List (Text × FileTree)) (name : Text) (names : List Text) :
    (folder entries).kindAt (name :: names) = (entries.lookup name).bind (·.kindAt names) := by
  rw [kindAt, at?, child?]
  cases entries.lookup name <;> rfl

theorem kindAt_eq_some_true_iff : t.kindAt names = some true ↔ ∃ entries, t.at? names = some (.folder entries) := by
  rw [kindAt]
  cases t.at? names with
  | none => simp
  | some u => cases u <;> simp [isFolder]

theorem at?_snoc (names : List Text) (name : Text) (t : FileTree) :
    t.at? (names ++ [name]) = (t.at? names).bind (·.child? name) := by
  induction names generalizing t with
  | nil => simp [at?]
  | cons n names ih =>
    rw [List.cons_append, at?, at?]
    cases t.child? n with
    | none => rfl
    | some u => exact ih u

/-- A row of names leads through folders. -/
theorem kindAt_of_kindAt_snoc (h : (t.kindAt (names ++ [name])).isSome = true) : t.kindAt names = some true := by
  rw [kindAt, at?_snoc, Option.isSome_map] at h
  rw [kindAt]
  cases hu : t.at? names with
  | none => simp [hu] at h
  | some u =>
    cases u with
    | file content => simp [hu, child?] at h
    | folder entries => rfl

/-- Where the place for a file is below a folder, it is so within what the folder holds by the first name. -/
theorem TakesFile.cons {next : Text} {rest : List Text} (h : t.TakesFile (name :: next :: rest)) :
    ∃ entries u, t = .folder entries ∧ entries.lookup name = some u ∧ u.TakesFile (next :: rest) := by
  cases t with
  | file content => cases h.folder
  | folder entries =>
    have hfolder := h.folder
    have hfree := h.free
    rw [List.dropLast_cons_cons, kindAt_folder_cons] at hfolder
    rw [kindAt_folder_cons] at hfree
    cases hu : entries.lookup name with
    | none => simp [hu] at hfolder
    | some u =>
      rw [hu] at hfolder hfree
      exact ⟨entries, u, rfl, hu, List.cons_ne_nil next rest, hfolder, hfree⟩

theorem TakesFile.singleton (h : t.TakesFile [name]) :
    ∃ entries, t = .folder entries ∧ ∀ u, entries.lookup name = some u → u.isFolder = false := by
  cases t with
  | file content => cases h.folder
  | folder entries =>
    refine ⟨entries, rfl, fun u hu => ?_⟩
    have hfree := h.free
    rw [kindAt_folder_cons, hu] at hfree
    simpa [kindAt_nil] using hfree

/-- The file stands where it was put. -/
theorem TakesFile.at?_put (h : t.TakesFile names) (new : FileTree) : (put new names t).at? names = some new := by
  induction names generalizing t with
  | nil => exact absurd rfl h.named
  | cons name names ih =>
    cases names with
    | nil =>
      obtain ⟨entries, rfl, -⟩ := h.singleton
      rw [put, at?, child?, lookup_setEntry_self]
      rfl
    | cons next rest =>
      obtain ⟨entries, u, rfl, hu, hin⟩ := h.cons
      rw [put, at?, child?, lookup_setEntry_self, hu]
      exact ih hin

theorem kindAt_setEntry (u : FileTree) (others : List Text) :
    (folder (setEntry name u entries)).kindAt (other :: others) =
      if other = name then u.kindAt others else (folder entries).kindAt (other :: others) := by
  rw [kindAt_folder_cons]
  by_cases hother : other = name
  · rw [if_pos hother, hother, lookup_setEntry_self]
    rfl
  · rw [if_neg hother, lookup_setEntry_ne hother, kindAt_folder_cons]

/-- A file that is put changes what is there at its own place alone. -/
theorem TakesFile.kindAt_put (h : t.TakesFile names) (content : Encoding.Bytes) (others : List Text) :
    (put (.file content) names t).kindAt others = if others = names then some false else t.kindAt others := by
  induction names generalizing t others with
  | nil => exact absurd rfl h.named
  | cons name names ih =>
    cases names with
    | nil =>
      obtain ⟨entries, rfl, hfile⟩ := h.singleton
      cases others with
      | nil => rfl
      | cons other others =>
        rw [put, put, kindAt_setEntry]
        by_cases hother : other = name
        · subst hother
          cases others with
          | nil => simp [kindAt_nil, isFolder]
          | cons o os =>
            -- nothing stands below what is no folder
            rw [if_pos rfl, kindAt_file, if_neg (by simp), kindAt_folder_cons]
            cases hu : entries.lookup other with
            | none => rfl
            | some u =>
              cases u with
              | file c => rfl
              | folder es => cases hfile _ hu
        · rw [if_neg hother, if_neg fun he => hother (List.cons.inj he).1]
    | cons next rest =>
      obtain ⟨entries, u, rfl, hu, hin⟩ := h.cons
      cases others with
      | nil => rfl
      | cons other others =>
        rw [put, kindAt_setEntry, hu, Option.getD_some, ih hin]
        by_cases hother : other = name
        · subst hother
          rw [if_pos rfl, kindAt_folder_cons, hu, Option.bind_some]
          simp
        · rw [if_neg hother, if_neg fun he => hother (List.cons.inj he).1]

end Dockgraph.FileTree

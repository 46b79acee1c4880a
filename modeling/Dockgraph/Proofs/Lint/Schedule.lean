import Dockgraph.Lint.Batch
import Dockgraph.Proofs.File.Collect
import Mathlib.Data.List.Sort
import Mathlib.Logic.Relation

/-! The check of many files by workers that end in any order. Every task ends with a report, also one that is refused,
and what a task ends with depends on its file alone. So whatever the order is, the reports are the same once they are
sorted by file: one for each file that the paths stand for. -/

namespace Dockgraph

namespace Text

/-! The order by code point is a linear one. -/

theorem precedesOrEq_cons {a b : Char} {s t : Text} :
    precedesOrEq (a :: s) (b :: t) = true ↔ a < b ∨ a = b ∧ precedesOrEq s t = true := by
  simp [precedesOrEq]

theorem precedesOrEq_total (s t : Text) : precedesOrEq s t = true ∨ precedesOrEq t s = true := by
  induction s generalizing t with
  | nil => exact Or.inl rfl
  | cons a s ih =>
    cases t with
    | nil => exact Or.inr rfl
    | cons b t =>
      rw [precedesOrEq_cons, precedesOrEq_cons]
      rcases Std.lt_trichotomy a b with h | rfl | h
      · exact Or.inl (Or.inl h)
      · exact (ih t).imp (fun h => Or.inr ⟨rfl, h⟩) fun h => Or.inr ⟨rfl, h⟩
      · exact Or.inr (Or.inl h)

theorem precedesOrEq_trans {s t u : Text} (hst : precedesOrEq s t = true) (htu : precedesOrEq t u = true) :
    precedesOrEq s u = true := by
  induction s generalizing t u with
  | nil => rfl
  | cons a s ih =>
    cases t with
    | nil => cases hst
    | cons b t =>
      cases u with
      | nil => cases htu
      | cons c u =>
        rw [precedesOrEq_cons] at hst htu ⊢
        rcases hst with hab | ⟨rfl, hst⟩
        · rcases htu with hbc | ⟨rfl, -⟩
          · exact Or.inl (Char.lt_trans hab hbc)
          · exact Or.inl hab
        · exact htu.imp_right fun ⟨hac, htu⟩ => ⟨hac, ih hst htu⟩

theorem precedesOrEq_antisymm {s t : Text} (hst : precedesOrEq s t = true) (hts : precedesOrEq t s = true) : s = t := by
  induction s generalizing t with
  | nil =>
    cases t with
    | nil => rfl
    | cons b t => cases hts
  | cons a s ih =>
    cases t with
    | nil => cases hst
    | cons b t =>
      rw [precedesOrEq_cons] at hst hts
      rcases hst with hab | ⟨rfl, hst⟩
      · rcases hts with hba | ⟨rfl, -⟩
        · exact absurd hba (Char.lt_asymm hab)
        · exact absurd hab (Char.lt_irrefl _)
      · rcases hts with haa | ⟨-, hts⟩
        · exact absurd haa (Char.lt_irrefl _)
        · rw [ih hst hts]

end Text

namespace Lint

theorem pairwise_inOrder {σ : Type} (reports : List (Report σ)) :
    (inOrder reports).Pairwise fun a b => Text.precedesOrEq a.file b.file = true := by
  refine @List.pairwise_mergeSort (Report σ) (fun a b => Text.precedesOrEq a.file b.file) (fun a b c => ?_) (fun a b => ?_)
    reports
  · exact Text.precedesOrEq_trans
  · rw [Bool.or_eq_true]
    exact Text.precedesOrEq_total a.file b.file

/-- The pool of workers: the files whose checks have not ended, and the reports of the others as they came. -/
structure Pool (σ : Type := Char) where
  running : List Text
  reports : List (Report σ)

/-- All files handed to the workers. -/
def Pool.start {σ : Type} (files : List Text) : Pool σ :=
  ⟨files, []⟩

section
variable {σ : Type} [Glyph σ] [DecidableEq σ] [Pattern.Searched σ]

/-- Some task ends, with a report or with a refusal that becomes one. -/
inductive Ends (d : Disk) (rules : Json σ) : Pool σ → Pool σ → Prop where
  | returns {before after : List Text} {file : Text} {reports : List (Report σ)} {r : Report σ}
      (result : lintFile d rules file = .ok r) :
      Ends d rules ⟨before ++ file :: after, reports⟩ ⟨before ++ after, reports ++ [r]⟩
  | raises {before after : List Text} {file : Text} {reports : List (Report σ)} {cause : Refusal}
      (result : lintFile d rules file = .error cause) :
      Ends d rules ⟨before ++ file :: after, reports⟩
        ⟨before ++ after, reports ++ [Report.failed file ("Exception during lint: ".toList ++ cause.message)]⟩

/-- What a pool comes to when some tasks have ended. -/
def Reaches (d : Disk) (rules : Json σ) : Pool σ → Pool σ → Prop :=
  Relation.ReflTransGen (Ends d rules)

variable {d : Disk} {rules : Json σ} {p q : Pool σ}

/-! Reports. -/

theorem file_reportOn {file content : Text} {r : Report σ} (h : reportOn file content rules = .ok r) : r.file = file := by
  rw [reportOn, map_eq_ok_iff] at h
  obtain ⟨result, -, rfl⟩ := h
  rfl

theorem file_lintFile {file : Text} {r : Report σ} (h : lintFile d rules file = .ok r) : r.file = file := by
  unfold lintFile at h
  split at h
  · exact Except.ok.inj h ▸ rfl
  · exact file_reportOn h

theorem file_fileReport (d : Disk) (rules : Json σ) (file : Text) : (fileReport d rules file).file = file := by
  unfold fileReport
  split
  next r h => exact file_lintFile h
  next => rfl

/-! Steps and runs of the pool. -/

/-- What ends is the task of some file, and its report comes last. -/
theorem ends_iff : Ends d rules p q ↔ ∃ before file after, p.running = before ++ file :: after ∧
    q = ⟨before ++ after, p.reports ++ [fileReport d rules file]⟩ := by
  constructor
  · rintro (⟨h⟩ | ⟨h⟩)
    · exact ⟨_, _, _, rfl, by simp only [fileReport, h]⟩
    · exact ⟨_, _, _, rfl, by simp only [fileReport, h]⟩
  · rintro ⟨before, file, after, hp, rfl⟩
    obtain ⟨running, reports⟩ := p
    obtain rfl := hp
    cases h : lintFile d rules file with
    | ok r => simpa only [fileReport, h] using Ends.returns h
    | error cause => simpa only [fileReport, h] using Ends.raises h

/-- The reports that are there, and those of the tasks that have not ended. -/
def Pool.allReports (d : Disk) (rules : Json σ) (p : Pool σ) : List (Report σ) :=
  p.reports ++ p.running.map (fileReport d rules)

theorem Ends.allReports_perm (h : Ends d rules p q) : (q.allReports d rules).Perm (p.allReports d rules) := by
  obtain ⟨before, file, after, hp, rfl⟩ := ends_iff.1 h
  rw [Pool.allReports, Pool.allReports, hp, List.append_assoc]
  exact ((List.perm_middle (a := file)).symm.map (fileReport d rules)).append_left p.reports

theorem Reaches.allReports_perm (h : Reaches d rules p q) : (q.allReports d rules).Perm (p.allReports d rules) := by
  induction h with
  | refl => exact .refl _
  | tail _ hstep ih => exact hstep.allReports_perm.trans ih

/-- While a task is running the pool can go on. -/
theorem exists_ends (d : Disk) (rules : Json σ) (h : p.running ≠ []) : ∃ q, Ends d rules p q := by
  obtain ⟨file, rest, hp⟩ := List.exists_cons_of_ne_nil h
  exact ⟨_, ends_iff.2 ⟨[], file, rest, hp, rfl⟩⟩

theorem Ends.length_running (h : Ends d rules p q) : q.running.length + 1 = p.running.length := by
  obtain ⟨before, file, after, hp, rfl⟩ := ends_iff.1 h
  rw [hp, List.length_append, List.length_append, List.length_cons]
  omega

/-! Reports by file. -/

/-- Reports that depend on their file alone are sorted in one way. -/
theorem inOrder_eq_of_perm {reports : List (Report σ)} {files : List Text}
    (h : reports.Perm (files.map (fileReport d rules))) : inOrder reports = inOrder (files.map (fileReport d rules)) := by
  have hperm : (inOrder reports).Perm (inOrder (files.map (fileReport d rules))) :=
    (List.mergeSort_perm _ _).trans (h.trans (List.mergeSort_perm _ _).symm)
  have hown : ∀ r ∈ inOrder (files.map (fileReport d rules)), r = fileReport d rules r.file := by
    intro r hr
    obtain ⟨file, -, rfl⟩ := List.mem_map.1 ((List.mergeSort_perm _ _).mem_iff.1 hr)
    rw [file_fileReport]
  refine hperm.eq_of_pairwise (fun a b ha hb hab hba => ?_) (pairwise_inOrder _) (pairwise_inOrder _)
  rw [hown a (hperm.mem_iff.1 ha), hown b hb, Text.precedesOrEq_antisymm hab hba]

theorem perm_lintPaths (d : Disk) (rules : Json σ) (paths : List Text) :
    (lintPaths d rules paths).Perm ((filesOf d paths).map (fileReport d rules)) :=
  List.mergeSort_perm _ _

/-- The files of the reports are those that the paths stand for, each as often as they do. -/
theorem files_lintPaths_perm (d : Disk) (rules : Json σ) (paths : List Text) :
    ((lintPaths d rules paths).map Report.file).Perm (paths.map d.collect).flatten := by
  have hfiles : ((filesOf d paths).map (fileReport d rules)).map Report.file = (paths.map d.collect).flatten := by
    rw [List.map_map, filesOf, List.flatMap_def]
    exact List.map_id'' (file_fileReport d rules) _
  exact hfiles ▸ (perm_lintPaths d rules paths).map Report.file

/-- In whatever order the tasks end, each with a report or a refusal, the run can go on to its end, and then the reports
by file are the same: one for each file that the paths stand for, which is that on this file. -/
theorem reports_whatever_order (hroot : d.root.IsProper) (rules : Json σ) (paths : List Text) :
    (∀ p, Reaches d rules (.start (filesOf d paths)) p →
      (p.running ≠ [] → ∃ q, Ends d rules p q) ∧ (p.running = [] → inOrder p.reports = lintPaths d rules paths)) ∧
    (∀ p q, Ends d rules p q → q.running.length < p.running.length) ∧
    (lintPaths d rules paths).Pairwise (fun a b => Text.precedesOrEq a.file b.file = true) ∧
    (∀ r ∈ lintPaths d rules paths, r = fileReport d rules r.file) ∧
    ∃ files, List.Forall₂ d.StandsFor paths files ∧
      ((lintPaths d rules paths).map Report.file).Perm files.flatten := by
  refine ⟨fun p hp => ⟨exists_ends d rules, fun hend => ?_⟩, fun p q h => ?_, pairwise_inOrder _, fun r hr => ?_,
    paths.map d.collect, ?_, files_lintPaths_perm d rules paths⟩
  · have hall := hp.allReports_perm
    rw [Pool.allReports, hend, List.map_nil, List.append_nil] at hall
    exact inOrder_eq_of_perm hall
  · have := h.length_running
    omega
  · obtain ⟨file, -, rfl⟩ := List.mem_map.1 ((perm_lintPaths d rules paths).mem_iff.1 hr)
    rw [file_fileReport]
  · exact List.forall₂_map_right_iff.2 (List.forall₂_same.2 fun path _ => Disk.standsFor_collect hroot path)

end

/-- A folder with a Dockerfile and a file of another name. -/
def innerFolder : FileTree :=
  .folder [("b.DockerFile".toList, .file []), ("notes".toList, .file [])]

def outerFolder : FileTree :=
  .folder [("Dockerfile.a".toList, .file []), ("old".toList, innerFolder)]

/-- A disk with Dockerfiles at two depths. -/
def nestedDisk : Disk :=
  ⟨.folder [("work".toList, outerFolder)], []⟩

theorem isProper_nestedDisk : nestedDisk.root.IsProper := by
  have named : ∀ name ∈ ["work", "Dockerfile.a", "old", "b.DockerFile", "notes"].map String.toList,
      Path.IsEntryName name := by
    intro name hname
    have hall : name ≠ [] ∧ name ≠ Path.here ∧ name ≠ Path.parent ∧ '/' ∉ name := by
      revert name
      decide
    exact ⟨⟨hall.1, hall.2.1, hall.2.2.1⟩, hall.2.2.2⟩
  have hinner : innerFolder.IsProper := .folder (by decide) (by simp [named]) (by simp [FileTree.IsProper.file])
  have houter : outerFolder.IsProper := .folder (by decide) (by simp [named]) (by simp [FileTree.IsProper.file, hinner])
  exact .folder (by decide) (by simp [named]) (by simp [houter])

/-- Paths that overlap give as many reports on a file as they stand for it, also where all tasks are refused. -/
theorem reports_whatever_order_nested :
    let paths : List Text := ["work".toList, "work/old/b.DockerFile".toList]
    let rules : Json := .int 1
    nestedDisk.root.IsProper ∧ ∀ reports, Reaches nestedDisk rules (.start (filesOf nestedDisk paths)) ⟨[], reports⟩ →
      (inOrder reports).map Report.file =
        ["work/Dockerfile.a".toList, "work/old/b.DockerFile".toList, "work/old/b.DockerFile".toList] := by
  intro paths rules
  have hfolder : nestedDisk.collect "work".toList = ["work/Dockerfile.a".toList, "work/old/b.DockerFile".toList] :=
    List.mergeSort_of_pairwise (by decide +kernel)
  have hfiles : filesOf nestedDisk paths =
      ["work/Dockerfile.a".toList, "work/old/b.DockerFile".toList, "work/old/b.DockerFile".toList] := by
    rw [filesOf, List.flatMap_cons, hfolder]
    rfl
  refine ⟨isProper_nestedDisk, fun reports h => ?_⟩
  rw [((reports_whatever_order isProper_nestedDisk rules paths).1 _ h).2 rfl, lintPaths, hfiles, inOrder,
    List.mergeSort_of_pairwise]
  · simp [file_fileReport]
  · refine List.pairwise_map.2 ?_
    simp only [file_fileReport]
    decide

end Lint

end Dockgraph

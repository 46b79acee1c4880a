import Dockgraph.CommandLine.Run
import Dockgraph.Proofs.CommandLine.Act
import Dockgraph.Proofs.Graph.Document
import Mathlib.Tactic.SplitIfs

/-! How the export of a graph ends. A refusal for any reason is told and ends the run with code 2; only a document
with a huge coordinate ends it in another way. -/

namespace Dockgraph.CommandLine

open Act

theorem yields_writeOutput (content : Text) (output : Option Text) :
    Yields (fun _ => True) (writeOutput content output) := by
  cases output with
  | none => exact yields_modify _
  | some path => exact (yields_writeFile path content).bind fun _ _ => yields_modify _

theorem run_edited_loadDocument (e : Editor) (document : Json) (name : Option Text) (t : Trace) :
    (edited e (.loadDocument document name)).run.run t =
      match Graph.ofJson document with
      | .ok g => (.ok (e.loadGraph g name), t)
      | .error .hugeInteger => (.error .hugeInteger, t)
      | .error cause => (.error (.refused cause.message), t) := by
  simp only [edited, Editor.step, Editor.loadDocument]
  cases Graph.ofJson document with
  | ok g => rfl
  | error cause => cases cause <;> rfl

variable {t : Trace} {file : Text}

theorem run_load (t : Trace) (file : Text) :
    (orRefuse Disk.LoadError.message (t.disk.load file)).run.run t =
      match t.disk.load file with
      | .ok document => (.ok document, t)
      | .error cause => (.error (.refused cause.message), t) := by
  cases t.disk.load file <;> rfl

theorem run_exportGraph_of_load_error (s : Surroundings) (output : Option Text) {cause : Disk.LoadError}
    (hload : t.disk.load file = .error cause) :
    (exportGraph s file output).run.run t = (.error (.refused cause.message), t) := by
  have hdisk : disk.run.run t = (.ok t.disk, t) := rfl
  have hread := run_load t file
  rw [hload] at hread
  rw [exportGraph, run_bind_ok hdisk, hload, run_bind_error hread]

theorem run_exportGraph_of_load_ok (s : Surroundings) (output : Option Text) {document : Json}
    (hload : t.disk.load file = .ok document) :
    let result := ((exportGraph s file output).run.run t).1
    Graph.DocumentOverflows document ∧ result = .error .hugeInteger ∨
      ¬ Graph.DocumentOverflows document ∧ (result = .ok 0 ∨ ∃ reason, result = .error (.refused reason)) := by
  have hdisk : disk.run.run t = (.ok t.disk, t) := rfl
  have hread := run_load t file
  have hedit := run_edited_loadDocument (newEditor s) document (fileNameIn document) t
  rw [hload] at hread
  rw [exportGraph, run_bind_ok hdisk, hload, run_bind_ok hread, ← Graph.ofJson_eq_huge_iff]
  cases hg : Graph.ofJson document with
  | ok g =>
    rw [hg] at hedit
    rw [run_bind_ok hedit]
    refine Or.inr ⟨by simp, ?_⟩
    have hwrite : ∀ content, Yields (fun n => n = 0) (writeOutput content output >>= fun _ => pure 0) :=
      fun content => (yields_writeOutput content output).bind fun _ _ => yields_pure rfl
    refine ((yields_modify _).bind fun _ _ => ?_ : Yields (fun n => n = 0) _) t |>.imp_left ?_
    · generalize (if output.isSome then Editor.content _ else Editor.exportText _) = content
      dsimp only
      split_ifs
      · exact (yields_modify _).bind fun _ _ => hwrite _
      · exact hwrite _
    · rintro ⟨v, hv, rfl⟩
      exact hv
  | error cause =>
    rw [hg] at hedit
    cases cause with
    | hugeInteger =>
      rw [run_bind_error hedit]
      exact Or.inl ⟨rfl, rfl⟩
    | notObject | notLists | node | edge =>
      rw [run_bind_error hedit]
      exact Or.inr ⟨by simp, Or.inr ⟨_, rfl⟩⟩

/-- The export fails otherwise than by a refusal just where the document of its file overflows. -/
theorem run_exportGraph (s : Surroundings) (file : Text) (output : Option Text) (t : Trace) :
    let result := ((exportGraph s file output).run.run t).1
    let overflows := ∃ document, t.disk.load file = .ok document ∧ Graph.DocumentOverflows document
    overflows ∧ result = .error .hugeInteger ∨
      ¬ overflows ∧ (result = .ok 0 ∨ ∃ reason, result = .error (.refused reason)) := by
  intro result overflows
  cases hload : t.disk.load file with
  | error cause =>
    have hno : ¬ overflows := by
      rintro ⟨document, hok, -⟩
      rw [hload] at hok
      cases hok
    have hresult : result = .error (.refused cause.message) :=
      congrArg Prod.fst (run_exportGraph_of_load_error s output hload)
    exact Or.inr ⟨hno, Or.inr ⟨_, hresult⟩⟩
  | ok document =>
    have hiff : overflows ↔ Graph.DocumentOverflows document := by
      simp [overflows, hload]
    rw [hiff]
    exact run_exportGraph_of_load_ok s output hload

/-- The exit of a run with the given result. -/
def exitOf : Except Failure Nat → Exit
  | .ok n => .code n
  | .error .hugeInteger => .hugeInteger
  | .error (.refused _) => .code 2

theorem exit_run (s : Surroundings) (d : Disk) (r : Request) :
    (r.run s d).exit = exitOf ((r.act s).run.run (Trace.start d)).1 := by
  unfold Request.run
  cases (r.act s).run.run (Trace.start d) with
  | mk result t =>
    cases result with
    | ok n => rfl
    | error cause => cases cause <;> rfl

/-- A document makes a graph or has a fault that is told, and its export ends with code 0 or 2, unless a coordinate
of its first entry that is no node overflows. -/
theorem export_ends_iff_overflows (s : Surroundings) (d : Disk) (verbose : Bool) (file : Text)
    (output : Option Text) :
    let exit := (Request.run s d ⟨verbose, .exportGraph file output⟩).exit
    let overflows := ∃ document, d.load file = .ok document ∧ Graph.DocumentOverflows document
    (∀ document, Graph.ofJson document = .error .hugeInteger ↔ Graph.DocumentOverflows document) ∧
      (exit = .hugeInteger ↔ overflows) ∧ (¬ overflows → exit = .code 0 ∨ exit = .code 2) := by
  intro exit overflows
  have hexit : exit = exitOf ((exportGraph s file output).run.run (Trace.start d)).1 := exit_run s d _
  refine ⟨fun document => Graph.ofJson_eq_huge_iff, ?_⟩
  rcases run_exportGraph s file output (Trace.start d) with ⟨hover, hrun⟩ | ⟨hno, hrun | ⟨reason, hrun⟩⟩
  · have hhuge : exit = .hugeInteger := hexit.trans (congrArg exitOf hrun)
    exact ⟨iff_of_true hhuge hover, fun hno => absurd hover hno⟩
  · have hcode : exit = .code 0 := hexit.trans (congrArg exitOf hrun)
    exact ⟨iff_of_false (by simp [hcode]) hno, fun _ => Or.inl hcode⟩
  · have hcode : exit = .code 2 := hexit.trans (congrArg exitOf hrun)
    exact ⟨iff_of_false (by simp [hcode]) hno, fun _ => Or.inr hcode⟩

/-- A disk with the file of a graph whose only node has a huge coordinate. -/
def hugeDisk : Disk :=
  let text : Text := "\x7b\"nodes\": [\x7b\"id\": 1, \"position\": \x7b\"x\": 1".toList
    ++ List.replicate 400 '0' ++ "\x7d\x7d]\x7d".toList
  ⟨.folder [("g.json".toList, .file (Encoding.encode text))], []⟩

/-- It is not so that every document is a graph or told to be none, and exported with code 0 or 2. -/
theorem not_export_ends_with_code : ¬ ((∀ document, Graph.ofJson document ≠ .error .hugeInteger) ∧
    ∀ (s : Surroundings) (d : Disk) (verbose : Bool) (file : Text) (output : Option Text),
      (d.load file).isOk = true →
      let exit := (Request.run s d ⟨verbose, .exportGraph file output⟩).exit
      exit = .code 0 ∨ exit = .code 2) := by
  rintro ⟨-, h⟩
  have hbad := h ⟨.zero, [], [], none, "s".toList⟩ hugeDisk false "g.json".toList none (by decide +kernel)
  revert hbad
  decide +kernel

end Dockgraph.CommandLine

import Dockgraph.Proofs.Editor.Writes
import Dockgraph.Proofs.Template

/-! Edits that fail. There are five reasons, each of which is found out before the first write, so a failing edit leaves
the session as it was. An import, which clears the session first, has no reason to fail. -/

namespace Dockgraph.Editor

/-- A reference that the catalog knows neither as an id nor, where it may be one, as a keyword. -/
inductive Reference.IsUnknown : Reference → Prop where
  | nothing : IsUnknown (.named none)
  | named {name : Text} (noId : ∀ spec ∈ Spec.catalog, spec.id ≠ name) (noKeyword : Instruction.resolve? name = none) :
      IsUnknown (.named (some name))
  | withId {id : Text} (noId : ∀ spec ∈ Spec.catalog, spec.id ≠ id) : IsUnknown (.withId id)

/-- A coordinate that is no number. -/
inductive NotAddable : Json → CoordinateError → Prop where
  | null : NotAddable .null (.other .null)
  | text (s : Text) : NotAddable (.text s) .text
  | list (items : List Json) : NotAddable (.list items) .list
  | object (fields : List (Text × Json)) : NotAddable (.object fields) (.other .object)

/-- Why an edit of a session fails. -/
inductive Fails (e : Editor) : Command → Error → Prop where
  | reference {reference : Reference} {arguments : Json} (unknown : reference.IsUnknown) :
      Fails e (.add reference arguments) (.unknownInstruction reference.name?)
  | place {reference : Reference} {arguments : Json} {last : Node} {cause : CoordinateError}
      (known : ¬ reference.IsUnknown) (below : e.graph.nodes.items.getLast? = some last)
      (stored : NotAddable last.position.y cause) : Fails e (.add reference arguments) (.coordinate cause)
  | field {id : Text} {fields : List (Text × Json)} {field : Text × Json} (given : field ∈ fields)
      (foreign : field.1 ∉ editableFields) : Fails e (.update id fields) (.notEditable (notEditable fields))
  | document {document : Json} {name : Option Text} {cause : Graph.DocumentError}
      (rejected : Graph.ofJson document = .error cause) : Fails e (.loadDocument document name) (.document cause)
  | template {id : Option Text} (unknown : ∀ o ∈ Template.builtinOutlines, id ≠ some o.id) :
      Fails e (.loadTemplate id) (.template (.unknownTemplate id))

variable {e : Editor}

theorem ofId?_eq_none_iff {id : Text} : Spec.ofId? id = none ↔ ∀ spec ∈ Spec.catalog, spec.id ≠ id := by
  simp only [Spec.ofId?, List.find?_eq_none, beq_iff_eq, ne_eq]

theorem find?_eq_none_iff {reference : Reference} : reference.find? = none ↔ reference.IsUnknown := by
  cases reference with
  | named name =>
    cases name with
    | none => exact iff_of_true rfl .nothing
    | some name =>
      rw [Reference.find?, Option.or_eq_none_iff, ofId?_eq_none_iff, Spec.ofToken?, Option.map_eq_none_iff]
      constructor
      · rintro ⟨noId, noKeyword⟩
        exact .named noId noKeyword
      · intro h
        cases h with
        | named noId noKeyword => exact ⟨noId, noKeyword⟩
  | withId id =>
    rw [Reference.find?, ofId?_eq_none_iff]
    constructor
    · exact .withId
    · intro h
      cases h with
      | withId noId => exact noId
  | use spec =>
    refine iff_of_false (fun h => ?_) fun h => ?_
    · cases h
    · cases h

theorem moveDown_eq_error_iff {y : Json} {cause : CoordinateError} :
    moveDown y = .error cause ↔ NotAddable y cause := by
  constructor
  · intro h
    cases y with
    | null => cases h; exact .null
    | text s => cases h; exact .text s
    | list items => cases h; exact .list items
    | object fields => cases h; exact .object fields
    | bool | int | float => cases h
  · rintro (_ | _ | _ | _) <;> rfl

theorem nextPosition_eq_error_iff {cause : CoordinateError} : e.nextPosition = .error cause ↔
    ∃ last, e.graph.nodes.items.getLast? = some last ∧ NotAddable last.position.y cause := by
  unfold nextPosition
  cases e.graph.nodes.items.getLast? with
  | none => simp
  | some last => simp [map_eq_error_iff, moveDown_eq_error_iff]

theorem notEditable_eq_nil_iff {fields : List (Text × Json)} :
    notEditable fields = [] ↔ ∀ field ∈ fields, field.1 ∈ editableFields := by
  rw [← List.length_eq_zero_iff, notEditable, List.length_mergeSort, List.length_eq_zero_iff, List.filter_eq_nil_iff,
    List.forall_mem_map]
  simp

theorem addSpec_answer (spec : Spec) (arguments : Json) (position : Position) :
    ∃ n, (e.addSpec spec arguments position).answer = .ok (.node n) := by
  unfold addSpec
  cases e.graph.nodes.items.getLast? <;> exact ⟨_, rfl⟩

theorem add_answer_eq_error_iff {reference : Reference} {arguments : Json} {cause : Error} :
    (e.add reference arguments).answer = .error cause ↔ Fails e (.add reference arguments) cause := by
  unfold add
  cases hfind : reference.find? with
  | none =>
    have hunknown := find?_eq_none_iff.1 hfind
    constructor
    · intro h
      obtain rfl := Except.error.inj h
      exact .reference hunknown
    · rintro (_ | ⟨known⟩)
      · rfl
      · exact absurd hunknown known
  | some spec =>
    have hknown : ¬ reference.IsUnknown := fun h => by simp [find?_eq_none_iff.2 h] at hfind
    cases hplace : e.nextPosition with
    | error placing =>
      obtain ⟨last, hlast, hstored⟩ := nextPosition_eq_error_iff.1 hplace
      constructor
      · intro h
        obtain rfl := Except.error.inj h
        exact .place hknown hlast hstored
      · rintro (unknown | ⟨-, below, stored⟩)
        · exact absurd unknown hknown
        · have hother := nextPosition_eq_error_iff.2 ⟨_, below, stored⟩
          rw [Except.error.inj (hplace.symm.trans hother)]
          rfl
    | ok position =>
      obtain ⟨n, hn⟩ := addSpec_answer (e := e) spec arguments position
      refine iff_of_false (fun h => ?_) ?_
      · cases hn.symm.trans h
      · rintro (unknown | ⟨-, below, stored⟩)
        · exact hknown unknown
        · cases hplace.symm.trans (nextPosition_eq_error_iff.2 ⟨_, below, stored⟩)

theorem update_answer_eq_error_iff {id : Text} {fields : List (Text × Json)} {cause : Error} :
    (e.update id fields).answer = .error cause ↔ Fails e (.update id fields) cause := by
  unfold update
  cases hnames : notEditable fields with
  | nil =>
    have hfields := notEditable_eq_nil_iff.1 hnames
    refine iff_of_false ?_ fun h => ?_
    · cases e.graph.nodes.find? id <;> exact fun h => nomatch h
    · cases h with
      | field given foreign => exact foreign (hfields _ given)
  | cons name names =>
    constructor
    · intro h
      obtain rfl := Except.error.inj h
      have hsome : ¬ ∀ field ∈ fields, field.1 ∈ editableFields := by
        rw [← notEditable_eq_nil_iff, hnames]
        exact List.cons_ne_nil _ _
      push Not at hsome
      obtain ⟨field, given, foreign⟩ := hsome
      rw [← hnames]
      exact .field given foreign
    · intro h
      cases h with
      | field given foreign =>
        rw [hnames]
        rfl

theorem loadDocument_answer_eq_error_iff {document : Json} {name : Option Text} {cause : Error} :
    (e.loadDocument document name).answer = .error cause ↔ Fails e (.loadDocument document name) cause := by
  unfold loadDocument
  cases hread : Graph.ofJson document with
  | ok g =>
    refine iff_of_false (fun h => nomatch h) fun h => ?_
    cases h with
    | document rejected => cases hread.symm.trans rejected
  | error rejection =>
    constructor
    · intro h
      obtain rfl := Except.error.inj h
      exact .document hread
    · intro h
      cases h with
      | document rejected =>
        rw [Except.error.inj (hread.symm.trans rejected)]
        rfl

theorem loadTemplate_answer_eq_error_iff {id : Option Text} {cause : Error} :
    (e.loadTemplate id).answer = .error cause ↔ Fails e (.loadTemplate id) cause := by
  unfold loadTemplate
  cases hload : Template.load Template.builtin id with
  | ok t =>
    refine iff_of_false (fun h => nomatch h) fun h => ?_
    cases h with
    | template unknown => cases hload.symm.trans (Template.load_builtin_eq_error_iff.2 ⟨unknown, rfl⟩)
  | error rejection =>
    obtain ⟨hunknown, rfl⟩ := Template.load_builtin_eq_error_iff.1 hload
    constructor
    · intro h
      obtain rfl := Except.error.inj h
      exact .template hunknown
    · intro h
      cases h with
      | template => rfl

/-- The edits that check nothing. -/
def Command.isUnchecked : Command → Bool
  | .add .. | .update .. | .loadDocument .. | .loadTemplate _ => false
  | .addNode _ | .move .. | .remove _ | .connect .. | .addEdge _ | .disconnect _ | .setFileName _ | .reset
  | .importText .. => true

theorem exists_answer (e : Editor) (c : Command) (hc : c.isUnchecked = true) :
    ∃ answer, (e.step c).answer = .ok answer := by
  cases c with
  | move id x y =>
    rw [step, move]
    cases e.graph.nodes.find? id <;> exact ⟨_, rfl⟩
  | remove id =>
    rw [step, remove]
    cases e.graph.nodes.has id <;> exact ⟨_, rfl⟩
  | disconnect id =>
    rw [step, disconnect]
    cases e.graph.edges.has id <;> exact ⟨_, rfl⟩
  | addNode | connect | addEdge | setFileName | reset | importText => exact ⟨_, rfl⟩
  | add | update | loadDocument | loadTemplate => cases hc

/-- An edit fails for the reasons given and for no others. -/
theorem answer_eq_error_iff {c : Command} {cause : Error} : (e.step c).answer = .error cause ↔ Fails e c cause := by
  by_cases hc : c.isUnchecked = true
  · obtain ⟨answer, hanswer⟩ := exists_answer e c hc
    refine iff_of_false (fun h => ?_) fun h => ?_
    · cases hanswer.symm.trans h
    · cases h <;> cases hc
  · cases c with
    | add reference arguments => exact add_answer_eq_error_iff
    | update id fields => exact update_answer_eq_error_iff
    | loadDocument document name => exact loadDocument_answer_eq_error_iff
    | loadTemplate id => exact loadTemplate_answer_eq_error_iff
    | _ => exact absurd rfl hc

/-- The outcome of a failing edit has the session from before. -/
theorem editor_of_fails {c : Command} {cause : Error} (h : Fails e c cause) : (e.step c).editor = e := by
  cases h with
  | reference unknown =>
    rw [step, add, find?_eq_none_iff.2 unknown]
    rfl
  | place known below stored =>
    obtain ⟨spec, hspec⟩ := Option.ne_none_iff_exists'.1 (mt find?_eq_none_iff.1 known)
    rw [step, add, hspec, nextPosition_eq_error_iff.2 ⟨_, below, stored⟩]
    rfl
  | field given foreign =>
    rw [step, update]
    split
    next hnames => exact absurd (notEditable_eq_nil_iff.1 hnames _ given) foreign
    next => rfl
  | document rejected =>
    rw [step, loadDocument, rejected]
    rfl
  | template unknown =>
    rw [step, loadTemplate, Template.load_builtin_eq_error_iff.2 ⟨unknown, rfl⟩]
    rfl

theorem Outcome.result_eq_error_iff {o : Outcome} {fault : Fault} {left : Editor} :
    o.result = .error fault left ↔ ∃ cause, fault = .refused cause ∧ o.answer = .error cause ∧ o.editor = left := by
  unfold Outcome.result
  cases o.answer with
  | ok answer => simp
  | error cause =>
    constructor
    · intro h
      cases h
      exact ⟨cause, rfl, rfl, rfl⟩
    · rintro ⟨_, rfl, hcause, rfl⟩
      rw [Except.error.inj hcause]

/-- Carried out write by write, an edit has the outcome that it has as a whole. It stops only for one of the reasons to
fail, and then nothing of the session has changed: not the nodes or the edges, which keep their orders, not the name of
the file, the rules or the count of ids. Nothing stops an import. -/
theorem edits_are_atomic (e : Editor) :
    (∀ c, (perform c).run e = (e.step c).result) ∧
    (∀ c fault left, (perform c).run e = .error fault left ↔
      left = e ∧ ∃ cause, fault = .refused cause ∧ Fails e c cause) ∧
    ∀ content name, ∃ g left, (perform (.importText content name)).run e = .ok (.graph g) left := by
  refine ⟨run_perform, ?_, ?_⟩
  · intro c fault left
    rw [run_perform, Outcome.result_eq_error_iff]
    constructor
    · rintro ⟨cause, rfl, hanswer, rfl⟩
      have hfails := answer_eq_error_iff.1 hanswer
      exact ⟨editor_of_fails hfails, cause, rfl, hfails⟩
    · rintro ⟨rfl, cause, rfl, hfails⟩
      exact ⟨cause, rfl, answer_eq_error_iff.2 hfails, editor_of_fails hfails⟩
  · intro content name
    exact ⟨_, _, run_perform (.importText content name)⟩

end Dockgraph.Editor

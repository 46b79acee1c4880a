import Dockgraph.Proofs.Except
import Dockgraph.Proofs.Order.Growth
import Dockgraph.Proofs.Script.RoundTrip
import Dockgraph.Template.Builtin

/-! The graph of a template is a chain whose nodes are numbered from one, in the order of the steps, and is written as
the steps say; the first step whose instruction is unknown is refused. The templates that come with the editor can all
be built. -/

namespace Dockgraph

namespace Template

/-- A chain of nodes numbered from one. -/
structure Numbered (g : Graph) (n : Nat) : Prop where
  chain : g.IsChain
  ids : g.nodes.ids = (List.range n).map fun i => Text.ofNat (i + 1)

theorem numbered_empty : Numbered .empty 0 :=
  ⟨rfl, rfl⟩

theorem Numbered.linear {g : Graph} {n : Nat} (h : Numbered g n) (s : IdSource) : g.Linear s where
  chain := h.chain
  known id hid := by
    rw [h.ids] at hid
    obtain ⟨i, -, rfl⟩ := List.mem_map.1 hid
    exact .numeral (i + 1)

theorem Numbered.fresh {g : Graph} {n : Nat} (h : Numbered g n) : Text.ofNat (n + 1) ∉ g.nodes.ids := by
  rw [h.ids]
  intro hm
  obtain ⟨i, hi, hid⟩ := List.mem_map.1 hm
  have := Text.ofNat_inj hid
  rw [List.mem_range] at hi
  omega

theorem Numbered.grow {g : Graph} {n : Nat} (h : Numbered g n) {node : Node}
    (hid : node.id = Text.ofNat (n + 1)) : Numbered (g.grow node) (n + 1) where
  chain := ((h.linear (.ofSession [])).grow (hid ▸ h.fresh) rfl le_rfl (hid ▸ .numeral _)).chain
  ids := by
    rw [Graph.ids_nodes_grow (hid ▸ h.fresh), h.ids, hid, List.range_succ, List.map_append]
    rfl

/-- A step links its node to the one before it, which has the number before. -/
theorem Numbered.grow_eq {g : Graph} {n : Nat} (h : Numbered g n) (node : Node) :
    (if n = 0 then g.insertNode node
      else (g.insertNode node).insertEdge (Edge.between (Text.ofNat n) node.id)) = g.grow node := by
  cases n with
  | zero =>
    have hl : g.nodes.ids.getLast? = none := by simp [h.ids]
    rw [if_pos rfl, Graph.grow_of_none hl]
  | succ n =>
    have hl : g.nodes.ids.getLast? = some (Text.ofNat (n + 1)) := by simp [h.ids, List.range_succ]
    rw [if_neg (Nat.succ_ne_zero n), Graph.grow_of_some hl]

/-- The node of a step shows some instruction, under the number and at the place of the step. -/
theorem exists_of_nodeOf {index : Nat} {step : Json} {n : Node} (h : nodeOf index step = .ok n) :
    ∃ spec arguments, n = Node.ofSpec (Text.ofNat (index + 1)) spec arguments (placeOf index) := by
  unfold nodeOf at h
  obtain ⟨_, _, h⟩ := bind_eq_ok_iff.1 h
  obtain ⟨_, _, h⟩ := bind_eq_ok_iff.1 h
  obtain ⟨spec, _, h⟩ := bind_eq_ok_iff.1 h
  exact ⟨spec, _, (Except.ok.inj h).symm⟩

theorem id_of_nodeOf {index : Nat} {step : Json} {n : Node} (h : nodeOf index step = .ok n) :
    n.id = Text.ofNat (index + 1) := by
  obtain ⟨_, _, rfl⟩ := exists_of_nodeOf h
  rfl

theorem Numbered.addSteps {g g' : Graph} {index : Nat} {steps : List Json} (h : Numbered g index)
    (ho : Template.addSteps g index steps = .ok g') : Numbered g' (index + steps.length) := by
  induction steps generalizing g index with
  | nil =>
    rw [← Except.ok.inj ho]
    exact h
  | cons step rest ih =>
    rw [Template.addSteps] at ho
    cases hn : nodeOf index step with
    | error e =>
      rw [hn] at ho
      cases ho
    | ok n =>
      simp only [hn, h.grow_eq] at ho
      have hr := ih (h.grow (id_of_nodeOf hn)) ho
      rw [List.length_cons, ← Nat.add_assoc, Nat.add_right_comm]
      exact hr

theorem addSteps_of_build {outline : Json} {t : Template} (h : build outline = .ok t) :
    ∃ steps, addSteps .empty 0 steps = .ok t.graph := by
  unfold build at h
  obtain ⟨steps, _, h⟩ := bind_eq_ok_iff.1 h
  obtain ⟨g, hg, h⟩ := bind_eq_ok_iff.1 h
  obtain ⟨_, _, h⟩ := bind_eq_ok_iff.1 h
  obtain ⟨_, _, h⟩ := bind_eq_ok_iff.1 h
  obtain rfl := Except.ok.inj h
  exact ⟨steps, hg⟩

theorem numbered_of_load {collection : Json} {id : Option Text} {t : Template}
    (h : load collection id = .ok t) : ∃ n, Numbered t.graph n := by
  unfold load at h
  obtain ⟨_, _, h⟩ := bind_eq_ok_iff.1 h
  obtain ⟨_, _, h⟩ := bind_eq_ok_iff.1 h
  obtain ⟨steps, hsteps⟩ := addSteps_of_build h
  exact ⟨_, numbered_empty.addSteps hsteps⟩

/-! Steps. -/

/-- What a step says: the token of an instruction, and arguments unless they are left out. -/
structure Step where
  token : Text
  arguments : Option Text

namespace Step

/-- The entry of an outline says what the step does; null stands for arguments that are left out. -/
def OfEntry (s : Step) (entry : Json) : Prop :=
  ∃ fields, entry = .object fields ∧ Json.field? "instruction".toList fields = some (.text s.token) ∧
    (Json.field? "arguments".toList fields).getD .null = .ofTextOption s.arguments

/-- The token names the instruction: trimmed and in upper case it is the keyword, or the deprecated one of labels. -/
def Names (s : Step) (i : Instruction) : Prop :=
  Text.upper (Text.trim s.token) = i.keyword ∨
    Text.upper (Text.trim s.token) = Instruction.maintainer ∧ i = .label

instance (s : Step) (i : Instruction) : Decidable (s.Names i) :=
  inferInstanceAs (Decidable (_ ∨ _))

/-- The instruction that the step names with its arguments, which are those of its first use where they are left out. -/
def Means (s : Step) (use : Instruction × Text) : Prop :=
  s.Names use.1 ∧ use.2 = s.arguments.getD (Spec.ofInstruction use.1).defaultArguments

variable {s : Step}

theorem ofToken?_eq_some_iff {spec : Spec} :
    Spec.ofToken? s.token = some spec ↔ ∃ i, s.Names i ∧ Spec.ofInstruction i = spec := by
  have hempty : ∀ i, s.Names i → s.token ≠ [] := by
    rintro i h hnil
    rw [Names, hnil] at h
    rcases h with h | ⟨h, -⟩
    · exact i.keyword_ne_nil h.symm
    · cases h
  rw [Spec.ofToken?, Option.map_eq_some_iff]
  refine exists_congr fun i => and_congr_left fun _ => ?_
  rw [Instruction.resolve?, Option.ite_none_left_eq_some, Script.ofKeyword?_eq_some_iff]
  exact and_iff_right_of_imp fun h => by simpa using hempty i h

theorem exists_means (h : ∃ i, s.Names i) : ∃ use, s.Means use := by
  obtain ⟨i, hi⟩ := h
  exact ⟨(i, s.arguments.getD (Spec.ofInstruction i).defaultArguments), hi, rfl⟩

theorem exists_first_unknown {steps : List Step} (h : ¬ ∀ s ∈ steps, ∃ i, s.Names i) :
    ∃ before s after, steps = before ++ s :: after ∧ (∀ b ∈ before, ∃ i, b.Names i) ∧ ¬ ∃ i, s.Names i := by
  induction steps with
  | nil => exact absurd nofun h
  | cons s steps ih =>
    by_cases hs : ∃ i, s.Names i
    · rw [List.forall_mem_cons, not_and] at h
      obtain ⟨before, u, after, rfl, hbefore, hu⟩ := ih (h hs)
      exact ⟨s :: before, u, after, rfl, List.forall_mem_cons.2 ⟨hs, hbefore⟩, hu⟩
    · exact ⟨[], s, steps, rfl, nofun, hs⟩

end Step

theorem specOf_text (token : Text) : specOf (.text token) =
    match Spec.ofToken? token with
    | some spec => .ok spec
    | none => .error (.unknownInstruction (.text token)) := by
  cases token <;> rfl

/-- The node of the use of an instruction at a place among the steps. -/
def nodeOfUse (use : (Instruction × Text) × Nat) : Node :=
  .ofSpec (Text.ofNat (use.2 + 1)) (Spec.ofInstruction use.1.1) (.text use.1.2) (placeOf use.2)

theorem line?_nodeOfUse (use : (Instruction × Text) × Nat) :
    (nodeOfUse use).line? = if use.1.2.isEmpty then none else some (Script.written use.1) := by
  cases h : use.1.2.isEmpty <;>
    simp [Node.line?, nodeOfUse, Node.ofSpec, Json.isTruthy, Json.display, Script.written, h,
      Instruction.keyword_ne_nil, Script.instruction_ofInstruction]

theorem filterMap_line?_nodeOfUse (uses : List (Instruction × Text)) (k : Nat) :
    ((uses.zipIdx k).map nodeOfUse).filterMap Node.line? =
      (uses.filter fun use => !use.2.isEmpty).map Script.written := by
  induction uses generalizing k with
  | nil => rfl
  | cons use uses ih =>
    rw [List.zipIdx_cons, List.map_cons, List.filterMap_cons, ih, line?_nodeOfUse, List.filter_cons]
    cases use.2.isEmpty <;> rfl

section Steps

variable {s : Step} {entry : Json} {index : Nat}

theorem nodeOf_eq (he : s.OfEntry entry) : nodeOf index entry = (specOf (.text s.token)).map fun spec =>
    .ofSpec (Text.ofNat (index + 1)) spec (.ofTextOption s.arguments) (placeOf index) := by
  obtain ⟨fields, rfl, hinstruction, harguments⟩ := he
  have hentry : Json.entry "instruction".toList (.object fields) = .ok (.text s.token) := by
    rw [Json.entry, Glyph.ofText_char, hinstruction]
  rw [nodeOf, hentry, ← harguments]
  rfl

theorem nodeOf_of_means (index : Nat) {use : Instruction × Text} (he : s.OfEntry entry) (hm : s.Means use) :
    nodeOf index entry = .ok (nodeOfUse (use, index)) := by
  rw [nodeOf_eq he, specOf_text, Step.ofToken?_eq_some_iff.2 ⟨use.1, hm.1, rfl⟩, nodeOfUse, hm.2]
  cases s.arguments <;> rfl

theorem nodeOf_of_unknown (he : s.OfEntry entry) (hs : ¬ ∃ i, s.Names i) :
    nodeOf index entry = .error (.unknownInstruction (.text s.token)) := by
  have hnone : Spec.ofToken? s.token = none := by
    rw [Option.eq_none_iff_forall_ne_some]
    intro spec h
    obtain ⟨i, hi, -⟩ := Step.ofToken?_eq_some_iff.1 h
    exact hs ⟨i, hi⟩
  rw [nodeOf_eq he, specOf_text, hnone]
  rfl

variable {steps before after : List Step} {entries : List Json} {g : Graph}

theorem Numbered.addSteps_of_means {uses : List (Instruction × Text)} (h : Numbered g index)
    (he : steps.Forall₂ Step.OfEntry entries) (hm : steps.Forall₂ Step.Means uses) :
    ∃ g', Template.addSteps g index entries = .ok g' ∧
      g'.nodes.items = g.nodes.items ++ (uses.zipIdx index).map nodeOfUse := by
  induction he generalizing g index uses with
  | nil =>
    cases hm
    exact ⟨g, rfl, (List.append_nil _).symm⟩
  | cons hentry _ ih =>
    cases hm with
    | cons huse hrest =>
      have hnode := nodeOf_of_means index hentry huse
      obtain ⟨g', hg', hitems⟩ := ih (h.grow (id_of_nodeOf hnode)) hrest
      rw [Template.addSteps, hnode]
      refine ⟨g', by simpa only [h.grow_eq] using hg', ?_⟩
      rw [hitems, Graph.items_nodes_grow h.fresh, List.append_assoc]
      rfl

/-- The steps after the first unknown instruction are not looked at. -/
theorem addSteps_of_unknown (he : (before ++ s :: after).Forall₂ Step.OfEntry entries)
    (hb : ∀ b ∈ before, ∃ i, b.Names i) (hs : ¬ ∃ i, s.Names i) :
    addSteps g index entries = .error (.unknownInstruction (.text s.token)) := by
  induction before generalizing g index entries with
  | nil =>
    obtain ⟨entry, rest, hentry, -, rfl⟩ := List.forall₂_cons_left_iff.1 he
    rw [addSteps, nodeOf_of_unknown hentry hs]
  | cons b before ih =>
    rw [List.forall_mem_cons] at hb
    obtain ⟨entry, rest, hentry, hrest, rfl⟩ := List.forall₂_cons_left_iff.1 he
    obtain ⟨use, huse⟩ := Step.exists_means hb.1
    rw [addSteps, nodeOf_of_means _ hentry huse]
    exact ih hrest hb.2

end Steps

/-! Outlines. -/

/-- The outline has the id, the name and the steps. -/
def IsOutline (id name : Json) (steps : List Step) (outline : Json) : Prop :=
  ∃ fields entries, outline = .object fields ∧ Json.field? "id".toList fields = some id ∧
    Json.field? "name".toList fields = some name ∧ Json.field? "steps".toList fields = some (.list entries) ∧
    steps.Forall₂ Step.OfEntry entries

section Outlines

variable {id name outline : Json} {steps : List Step}

theorem IsOutline.exists_entries (h : IsOutline id name steps outline) :
    ∃ entries, steps.Forall₂ Step.OfEntry entries ∧
      build outline = (addSteps .empty 0 entries).map fun g => ⟨id, name, g⟩ := by
  obtain ⟨fields, entries, rfl, hid, hname, hsteps, hentries⟩ := h
  have hmember : Json.member? "steps".toList (.object fields) = .ok (some (.list entries)) :=
    congrArg Except.ok hsteps
  have hlist : stepsOf (.object fields) = .ok entries := by
    rw [stepsOf, hmember]
    cases entries <;> rfl
  have hidEntry : Json.entry "id".toList (.object fields) = .ok id := by
    rw [Json.entry, Glyph.ofText_char, hid]
  have hnameEntry : Json.entry "name".toList (.object fields) = .ok name := by
    rw [Json.entry, Glyph.ofText_char, hname]
  refine ⟨entries, hentries, ?_⟩
  rw [build, hlist, hidEntry, hnameEntry]
  change addSteps .empty 0 entries >>= _ = _
  cases addSteps .empty 0 entries <;> rfl

/-- The graph of an outline whose instructions are all known has a numbered node for each step. -/
theorem IsOutline.exists_build (h : IsOutline id name steps outline) {uses : List (Instruction × Text)}
    (hm : steps.Forall₂ Step.Means uses) : ∃ g, build outline = .ok ⟨id, name, g⟩ ∧
      Numbered g steps.length ∧ g.nodes.items = uses.zipIdx.map nodeOfUse := by
  obtain ⟨entries, hentries, hbuild⟩ := h.exists_entries
  obtain ⟨g, hg, hitems⟩ := numbered_empty.addSteps_of_means hentries hm
  have hnumbered := numbered_empty.addSteps hg
  rw [Nat.zero_add, ← hentries.length_eq] at hnumbered
  rw [hbuild, hg]
  exact ⟨g, rfl, hnumbered, hitems⟩

/-- An outline becomes a chain of nodes numbered from one, in the order of its steps, which is written as the keywords
of the steps with their arguments, empty ones left out; or the first step whose token names no instruction is refused. -/
theorem built_or_first_unknown (h : IsOutline id name steps outline) :
    ((∀ s ∈ steps, ∃ i, s.Names i) → ∃ uses g, steps.Forall₂ Step.Means uses ∧
      build outline = .ok ⟨id, name, g⟩ ∧
      g.nodes.items = uses.zipIdx.map nodeOfUse ∧
      g.nodes.ids = ((List.range steps.length).map fun k => Text.ofNat (k + 1)) ∧
      g.edges.items =
        ((List.range (steps.length - 1)).map fun k => Edge.between (Text.ofNat (k + 1)) (Text.ofNat (k + 2))) ∧
      g.ordered = g.nodes.items ∧
      g.text = Text.unlines ((uses.filter fun use => !use.2.isEmpty).map Script.written)) ∧
    ((¬ ∀ s ∈ steps, ∃ i, s.Names i) → ∃ before s after, steps = before ++ s :: after ∧
      (∀ b ∈ before, ∃ i, b.Names i) ∧ (¬ ∃ i, s.Names i) ∧
      build outline = .error (.unknownInstruction (.text s.token))) := by
  constructor
  · intro hall
    obtain ⟨uses, huses⟩ := exists_forall₂ fun s hs => Step.exists_means (hall s hs)
    obtain ⟨g, hbuild, hnumbered, hitems⟩ := h.exists_build huses
    have hordered := hnumbered.chain.ordered
    refine ⟨uses, g, huses, hbuild, hitems, hnumbered.ids, ?_, hordered, ?_⟩
    · rw [hnumbered.chain, hnumbered.ids, Edge.chain_map_range]
    · rw [Graph.text, hordered, hitems, Script.render, filterMap_line?_nodeOfUse]
  · intro hsome
    obtain ⟨before, s, after, rfl, hbefore, hs⟩ := Step.exists_first_unknown hsome
    obtain ⟨entries, hentries, hbuild⟩ := h.exists_entries
    refine ⟨before, s, after, rfl, hbefore, hs, ?_⟩
    rw [hbuild, addSteps_of_unknown hentries hbefore hs]
    rfl

/-- Eleven steps, some of them with blanks around the token, no arguments, or empty ones. -/
def elevenSteps : List Step := [
  ⟨" from\t", none⟩, ⟨"Maintainer", some "me"⟩, ⟨"RUN", some ""⟩, ⟨"cmd", some " "⟩, ⟨"env", none⟩, ⟨"add", some "a b"⟩,
  ⟨"uſer", none⟩, ⟨"RUN", some "x"⟩, ⟨"RUN", some "x"⟩, ⟨"run\n", some "y"⟩, ⟨"\u2003label", some "z"⟩]

/-- An outline whose entries leave the arguments out where a step has none. -/
def outlineOf (steps : List Step) : Json :=
  let entry (s : Step) : Json :=
    .object (("instruction".toList, .text s.token) :: (s.arguments.map fun a => ("arguments".toList, .text a)).toList)
  .object [("id".toList, .int 7), ("name".toList, .null), ("steps".toList, .list (steps.map entry))]

theorem isOutline_outlineOf (steps : List Step) : IsOutline (.int 7) .null steps (outlineOf steps) := by
  refine ⟨_, _, rfl, rfl, rfl, rfl, ?_⟩
  rw [List.forall₂_map_right_iff, List.forall₂_same]
  rintro ⟨token, arguments⟩ -
  cases arguments <;> exact ⟨_, rfl, rfl, rfl⟩

/-- The nodes with two digits come after those with one. A token is unknown that holds more than a keyword. -/
theorem built_or_first_unknown_eleven :
    let unknown : List Step := elevenSteps ++ [⟨"MAINTAINER S", none⟩, ⟨"", none⟩]
    IsOutline (.int 7) .null elevenSteps (outlineOf elevenSteps) ∧ (∀ s ∈ elevenSteps, ∃ i, s.Names i) ∧
    (∃ g, build (outlineOf elevenSteps) = .ok ⟨.int 7, .null, g⟩ ∧ g.ordered = g.nodes.items ∧
      g.nodes.ids = ["1", "2", "3", "4", "5", "6", "7", "8", "9", "10", "11"].map String.toList) ∧
    IsOutline (.int 7) .null unknown (outlineOf unknown) ∧ (¬ ∀ s ∈ unknown, ∃ i, s.Names i) ∧
    ∃ s ∈ unknown, (¬ ∃ i, s.Names i) ∧ build (outlineOf unknown) = .error (.unknownInstruction (.text s.token)) := by
  intro unknown
  have hall : ∀ s ∈ elevenSteps, ∃ i ∈ Instruction.all, s.Names i := by decide +kernel
  have hnamed : ∀ s ∈ elevenSteps, ∃ i, s.Names i := fun s hs => (hall s hs).imp fun _ h => h.2
  have hnone : ¬ ∃ i ∈ Instruction.all, Step.Names ⟨"", none⟩ i := by decide +kernel
  have hunknown : ¬ ∀ s ∈ unknown, ∃ i, s.Names i := by
    intro h
    obtain ⟨i, hi⟩ := h ⟨"", none⟩ (by simp [unknown])
    exact hnone ⟨i, i.mem_all, hi⟩
  refine ⟨isOutline_outlineOf _, hnamed, ?_, isOutline_outlineOf _, hunknown, ?_⟩
  · obtain ⟨uses, g, -, hbuild, -, hids, -, hordered, -⟩ :=
      (built_or_first_unknown (isOutline_outlineOf elevenSteps)).1 hnamed
    exact ⟨g, hbuild, hordered, hids.trans (by decide +kernel)⟩
  · obtain ⟨before, s, after, hsplit, -, hs, hbuild⟩ :=
      (built_or_first_unknown (isOutline_outlineOf unknown)).2 hunknown
    exact ⟨s, hsplit ▸ by simp, hs, hbuild⟩

end Outlines

/-! The templates that come with the editor. -/

theorem isOutline_toJson (o : Outline) :
    IsOutline (.text o.id) (.text o.name) (o.steps.map fun step => ⟨step.1, some step.2⟩) o.toJson := by
  refine ⟨_, _, rfl, rfl, rfl, rfl, ?_⟩
  rw [List.forall₂_map_left_iff, List.forall₂_map_right_iff, List.forall₂_same]
  exact fun step _ => ⟨_, rfl, rfl, rfl⟩

/-- An outline all of whose instructions are known can be built. -/
theorem exists_build {o : Outline} (h : ∀ step ∈ o.steps, (Spec.ofToken? step.1).isSome = true) :
    ∃ t, build o.toJson = .ok t := by
  have hnamed : ∀ s ∈ o.steps.map fun step => (⟨step.1, some step.2⟩ : Step), ∃ i, s.Names i := by
    rw [List.forall_mem_map]
    intro step hstep
    obtain ⟨spec, hspec⟩ := Option.isSome_iff_exists.1 (h step hstep)
    obtain ⟨i, hi, -⟩ := (Step.ofToken?_eq_some_iff (s := ⟨step.1, some step.2⟩)).1 hspec
    exact ⟨i, hi⟩
  obtain ⟨uses, huses⟩ := exists_forall₂ fun s hs => Step.exists_means (hnamed s hs)
  obtain ⟨g, hg, -⟩ := (isOutline_toJson o).exists_build huses
  exact ⟨_, hg⟩

theorem findOutline_map_toJson (id : Option Text) (outlines : List Outline) :
    findOutline id (outlines.map Outline.toJson) =
      match outlines.find? fun o => id == some o.id with
      | some o => .ok o.toJson
      | none => .error (.unknownTemplate id) := by
  induction outlines with
  | nil => rfl
  | cons o rest ih =>
    have hid : hasId id (some (.text o.id)) = (id == some o.id) := by cases id <;> rfl
    have hmember : o.toJson.member? "id".toList = .ok (some (.text o.id)) := rfl
    rw [List.map_cons, findOutline, hmember, List.find?_cons]
    simp only [hid]
    cases id == some o.id with
    | true => rfl
    | false => exact ih

/-- Loading a template that comes with the editor fails for the ids of none of them only. -/
theorem load_builtin_eq_error_iff {id : Option Text} {cause : Error} : load builtin id = .error cause ↔
    (∀ o ∈ builtinOutlines, id ≠ some o.id) ∧ cause = .unknownTemplate id := by
  have hknown : ∀ o ∈ builtinOutlines, ∀ step ∈ o.steps, (Spec.ofToken? step.1).isSome = true := by decide +kernel
  have hload : load builtin id = findOutline id (builtinOutlines.map Outline.toJson) >>= build := rfl
  rw [hload, findOutline_map_toJson]
  cases hfind : builtinOutlines.find? fun o => id == some o.id with
  | none =>
    simp only [List.find?_eq_none, beq_iff_eq] at hfind
    constructor
    · intro h
      exact ⟨hfind, (Except.error.inj h).symm⟩
    · rintro ⟨-, rfl⟩
      rfl
  | some o =>
    have hmem := List.mem_of_find?_eq_some hfind
    have hid := List.find?_some hfind
    obtain ⟨t, ht⟩ := exists_build (hknown o hmem)
    refine iff_of_false (fun h => ?_) fun h => h.1 o hmem (beq_iff_eq.1 hid)
    cases (show Except.ok t = .error cause from ht.symm.trans h)

end Template

end Dockgraph

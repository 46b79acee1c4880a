import Dockgraph.CommandLine.Act

/-! Commands that come to a value or are refused, and what they make of the disk. The property is that of single steps
and passes on to what they make up, as a refusal ends all that comes after it. -/

namespace Dockgraph.CommandLine

open Act

variable {α β : Type} {P : α → Prop} {Q : β → Prop}

theorem run_bind_ok {a : Act α} {k : α → Act β} {t t' : Trace} {v : α} (h : a.run.run t = (.ok v, t')) :
    (a >>= k).run.run t = (k v).run.run t' := by
  simp only [ExceptT.run_bind, StateT.run_bind, h]
  rfl

theorem run_bind_error {a : Act α} {k : α → Act β} {t t' : Trace} {f : Failure}
    (h : a.run.run t = (.error f, t')) : (a >>= k).run.run t = (.error f, t') := by
  simp only [ExceptT.run_bind, StateT.run_bind, h]
  rfl

/-- Whatever was done before, the command comes to a value with the property or is refused. -/
def Yields (P : α → Prop) (a : Act α) : Prop :=
  ∀ t, (∃ v, (a.run.run t).1 = .ok v ∧ P v) ∨ ∃ reason, (a.run.run t).1 = .error (.refused reason)

theorem yields_pure {v : α} (h : P v) : Yields P (pure v : Act α) :=
  fun _ => Or.inl ⟨v, rfl, h⟩

theorem yields_disk : Yields (fun _ => True) disk :=
  fun t => Or.inl ⟨t.disk, rfl, trivial⟩

theorem yields_modify (f : Trace → Trace) : Yields (fun _ => True) (modify f : Act Unit) :=
  fun _ => Or.inl ⟨(), rfl, trivial⟩

theorem Yields.bind {a : Act α} {k : α → Act β} (ha : Yields P a) (hk : ∀ v, P v → Yields Q (k v)) :
    Yields Q (a >>= k) := by
  intro t
  cases h : a.run.run t with
  | mk r t' =>
    rcases ha t with ⟨v, hv, hP⟩ | ⟨reason, hr⟩
    · rw [h] at hv
      obtain rfl : r = .ok v := hv
      rw [run_bind_ok h]
      exact hk v hP t'
    · rw [h] at hr
      obtain rfl : r = .error (.refused reason) := hr
      rw [run_bind_error h]
      exact Or.inr ⟨reason, rfl⟩

theorem yields_orRefuse {ε : Type} (message : ε → Text) (r : Except ε α) :
    Yields (fun v => r = .ok v) (orRefuse message r) := by
  cases r with
  | ok v => exact fun _ => Or.inl ⟨v, rfl, rfl⟩
  | error e => exact fun _ => Or.inr ⟨message e, rfl⟩

theorem yields_writeFile (path content : Text) : Yields (fun _ => True) (writeFile path content) := by
  refine yields_disk.bind fun d _ => ?_
  exact (yields_orRefuse _ _).bind fun written _ => yields_modify _

/-! Commands and the disk. -/

/-- From any trace with the one disk, the command comes to the value and leaves the other. -/
def Leads (a : Act α) (d : Disk) (v : α) (d' : Disk) : Prop :=
  ∀ t, t.disk = d → ∃ t', a.run.run t = (.ok v, t') ∧ t'.disk = d'

variable {d d' d'' : Disk} {v : α} {w : β}

theorem leads_pure (v : α) (d : Disk) : Leads (pure v) d v d :=
  fun t ht => ⟨t, rfl, ht⟩

theorem leads_disk (d : Disk) : Leads disk d d d := by
  rintro t rfl
  exact ⟨t, rfl, rfl⟩

theorem leads_tell (n : Notice) (d : Disk) : Leads (tell n) d () d :=
  fun _ ht => ⟨_, rfl, ht⟩

theorem leads_tellAll (ns : List Notice) (d : Disk) : Leads (tellAll ns) d () d :=
  fun _ ht => ⟨_, rfl, ht⟩

theorem leads_orRefuse {ε : Type} (message : ε → Text) {r : Except ε α} (h : r = .ok v) (d : Disk) :
    Leads (orRefuse message r) d v d := by
  subst h
  exact leads_pure v d

theorem Leads.bind {a : Act α} {k : α → Act β} (ha : Leads a d v d') (hk : Leads (k v) d' w d'') :
    Leads (a >>= k) d w d'' := by
  intro t ht
  obtain ⟨t', hrun, hdisk⟩ := ha t ht
  rw [run_bind_ok hrun]
  exact hk t' hdisk

theorem leads_writeFile {path content : Text} (h : d.write path (Encoding.encode content) = .ok d') :
    Leads (writeFile path content) d () d' :=
  (leads_disk d).bind ((leads_orRefuse _ h d).bind fun _ _ => ⟨_, rfl, rfl⟩)

end Dockgraph.CommandLine

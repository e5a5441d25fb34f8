import Scoreboard.Proofs.Engine.Changes
import Scoreboard.Proofs.Engine.Stretch
import Scoreboard.Proofs.Host.Traces

/-!
# The registry grows at its end

An engine's registry after a turn is the one before it and what the turn has entered (`registry_perform`): the
objective of a wait that ends, unless it is there already. So the registry is the list of what the turns of a
trace have entered (`Trace.registry_eq`), and each objective in it goes back to an operation that adds one
(`Trace.isEnsured`).
-/

namespace Scoreboard.Host

/-- The objectives that a turn has entered in an engine's registry. -/
def Taken.registered (i : Nat) (s : Taken) : List String :=
  match s.turn with
  | .resume _ j stage _ => if j = i then (s.host.engines[i]?.map (·.registers stage)).getD [] else []
  | _ => []

variable {i : Nat} {s : Taken} {objective : String}

/-- An objective is entered in the turn that takes the reply to its add command, unless it is there already. -/
theorem mem_registered_iff : objective ∈ s.registered i ↔
    ∃ origin reply e, s.turn = .resume origin i (.adding objective) reply ∧
      s.host.engines[i]? = some e ∧ e.isRegistered objective = false := by
  constructor
  · intro h
    unfold Taken.registered at h
    split at h
    · rename_i origin j stage reply hturn
      split at h
      · rename_i hj
        subst hj
        rcases he : s.host.engines[j]? with _ | e
        · rw [he] at h
          cases h
        · rw [he, Option.map_some, Option.getD_some] at h
          -- no other stage enters anything
          cases stage with
          | adding added =>
            simp only [Engine.registers] at h
            split at h
            · cases h
            · rename_i fresh
              rw [List.mem_singleton.mp h]
              exact ⟨origin, reply, e, hturn, rfl, by simpa using fresh⟩
          | _ => cases h
      · cases h
    · cases h
  · rintro ⟨origin, reply, e, hturn, he, fresh⟩
    simp [Taken.registered, hturn, he, Engine.registers, fresh]

/-- A turn that takes no reply for an engine enters nothing in its registry. -/
theorem registered_eq_nil (h : ∀ origin stage reply, s.turn ≠ .resume origin i stage reply) :
    s.registered i = [] := by
  rw [List.eq_nil_iff_forall_not_mem]
  intro objective hmem
  obtain ⟨origin, reply, -, hturn, -⟩ := mem_registered_iff.mp hmem
  exact h origin _ reply hturn

/-- After a turn the registry has what the turn has entered, at its end. -/
theorem registry_perform (i : Nat) (s : Taken) :
    (s.host.perform s.turn).registry i = s.host.registry i ++ s.registered i := by
  have recalls := recalls_perform s.host s.turn i
  rw [registry_eq_memory?]
  generalize (s.host.perform s.turn).memory? i = remembered at recalls
  -- a turn begins an operation of the engine, resumes one, creates the engine or leaves its memory alone; only the
  -- second enters something
  cases recalls with
  | @begun e origin operation he hturn =>
    have hregistered : s.registered i = [] := registered_eq_nil (by simp [hturn])
    show (e.begin operation s.host.draws).1.engine.objectives = _
    rw [(e.begin_changes operation s.host.draws).1, hregistered, registry_eq he, List.append_nil]
  | @resumed e origin stage reply he hturn =>
    have hregistered : s.registered i = e.registers stage := by
      rw [Taken.registered, hturn]
      simp [he]
    show (e.resume stage reply).engine.objectives = _
    rw [(e.resume_changes stage reply).1, hregistered, registry_eq he]
  -- what is entered is entered by an engine that exists
  | created config absent =>
    have habsent : s.host.engines[i]? = none := Option.map_eq_none_iff.mp absent
    have hregistered : s.registered i = [] := by
      rw [List.eq_nil_iff_forall_not_mem]
      intro objective hmem
      obtain ⟨-, -, e, -, he, -⟩ := mem_registered_iff.mp hmem
      rw [habsent] at he
      cases he
    rw [hregistered, registry, habsent]
    rfl
  | same elsewhere =>
    have hregistered : s.registered i = [] := by
      rw [List.eq_nil_iff_forall_not_mem]
      intro objective hmem
      obtain ⟨origin, reply, e, hturn, he, -⟩ := mem_registered_iff.mp hmem
      exact elsewhere origin _ (stretch?_eq_some_iff.mpr ⟨e, he, .inr ⟨_, reply, hturn, rfl⟩⟩)
    rw [hregistered, List.append_nil, ← registry_eq_memory?]

theorem registry_subset_perform (h : Host) (t : Turn) (i : Nat) : h.registry i ⊆ (h.perform t).registry i := by
  have happend := registry_perform i ⟨h, t⟩
  intro objective hmem
  rw [happend]
  exact List.mem_append_left _ hmem

theorem registry_of_memory? {h h' : Host} (same : h'.memory? i = h.memory? i) :
    h'.registry i = h.registry i := by
  rw [registry_eq_memory?, same, ← registry_eq_memory?]

/-- What is in a registry is in that of an engine that exists. -/
theorem exists_of_mem_registry {h : Host} {i : Nat} {objective : String} (hmem : objective ∈ h.registry i) :
    ∃ e, h.engines[i]? = some e ∧ objective ∈ e.objectives := by
  unfold registry at hmem
  cases he : h.engines[i]? with
  | none =>
    rw [he] at hmem
    cases hmem
  | some e =>
    rw [he] at hmem
    exact ⟨e, rfl, hmem⟩

variable {latency : Nat} {rules : List Rule} {draws : Draws} {config : Config} {h h' : Host}
  {past : List Taken}

/-- The registry holds what turns have entered, in the order in which they have. -/
theorem Trace.registry_eq (trace : Trace (start latency rules draws config) past h) (i : Nat) :
    h.registry i = past.reverse.flatMap (Taken.registered i) := by
  induction trace with
  | refl =>
    -- a new engine has no objectives
    match i with
    | 0 => rfl
    | i + 1 => rfl
  | @tail past h h' taken trace step ih =>
    cases taken with
    | none =>
      rw [registry_of_memory? (step.of_none.2.1 i)]
      exact ih
    | some s =>
      obtain ⟨rfl, -, memory, -⟩ := step.of_some
      rw [registry_perform, registry_of_memory? (memory i), ih]
      simp

/-- A registry has just what the turns of the trace have entered. -/
theorem Trace.mem_registry_iff (trace : Trace (start latency rules draws config) past h) :
    objective ∈ h.registry i ↔ ∃ s ∈ past, objective ∈ s.registered i := by
  rw [trace.registry_eq]
  simp

/-- What is in the registry has been added for a plugin. -/
theorem Trace.isEnsured (trace : Trace (start latency rules draws config) past h)
    (hmem : objective ∈ h.registry i) : ∃ s ∈ past, ∃ origin plugin name criterion display,
      s.turn = .begin origin (.operate i (.ensure plugin name criterion display)) ∧
        objective = plugin.objectiveName name := by
  obtain ⟨s, hs, hregistered⟩ := trace.mem_registry_iff.mp hmem
  obtain ⟨origin, reply, -, hturn, -, -⟩ := mem_registered_iff.mp hregistered
  obtain ⟨-, s', hs', hleaves⟩ := trace.asked_of_mem hs hturn
  obtain ⟨o, commands, hstretch, hn, -⟩ := resume_mem_leaves.mp hleaves
  obtain ⟨e, -, ⟨operation, hturn', rfl⟩ | ⟨stage, reply', -, rfl⟩⟩ := stretch?_eq_some_iff.mp hstretch
  · obtain ⟨plugin, name, criterion, display, rfl, hname⟩ := (Engine.begin_eq_send_iff.mp hn).adding
    exact ⟨s', hs', origin, plugin, name, criterion, display, hturn', hname⟩
  -- no operation goes over to adding an objective after another wait
  · exact absurd (Engine.resume_eq_send_iff.mp hn) Engine.Continues.adding

end Scoreboard.Host

import Scoreboard.Proofs.Engine.Changes
import Scoreboard.Proofs.Engine.Stretch

/-!
# Scores on their way

What an operation keeps of scores while it waits: the score it has asked for (`Stage.asks?`), the objectives
that it is still to read (`Stage.wants`) and the scores it has read but not yet entered in the cache
(`Stage.holds`). A wait that asks for a score has sent the command for just that score (`Opens.asks`,
`Continues.asks`); a reply adds the score it tells of to what is held (`Continues.scores`) or entered
(`mem_publishes`), and nothing else does.
-/

namespace Scoreboard

namespace Stage

/-- The score that has been asked for. -/
def asks? : Stage → Option (String × String)
  | .readingScore player objective => some (player, objective)
  | .syncing sync => sync.left.head?
  | _ => none

/-- The objectives of scores to be read. -/
def wants : Stage → List String
  | .readingScore _ objective => [objective]
  | .syncing sync => sync.left.map Prod.snd
  | _ => []

/-- The scores read and not yet entered in the cache. -/
def holds : Stage → List Fetched
  | .syncing sync => sync.fetched
  | _ => []

/-- Whether a score is that in a reply to what has been asked for. -/
def Learns (stage : Stage) (reply : String) (f : Fetched) : Prop :=
  stage.asks? = some (f.player, f.objective) ∧ Reply.score? reply = some f.value

/-- The score in a reply, if it tells of what has been asked for. -/
def learned (reply : String) (stage : Stage) : List Fetched :=
  match stage.asks? with
  | some (player, objective) => (Reply.score? reply).toList.map fun value => ⟨player, objective, value⟩
  | none => []

/-- The score that a wait is for is among those that it is to read. -/
theorem mem_wants_of_asks? {stage : Stage} {player objective : String}
    (h : stage.asks? = some (player, objective)) : objective ∈ stage.wants := by
  cases stage with
  | readingScore p o =>
    cases h
    exact List.mem_singleton_self objective
  | syncing sync =>
    have hleft : sync.left.head? = some (player, objective) := h
    exact List.mem_map_of_mem (List.mem_of_head? hleft)
  | _ => cases h

end Stage

/-- What a reply tells a wait is the score that the wait is for, with the value in the reply. -/
theorem Stage.mem_learned_iff {stage : Stage} {reply : String} {f : Fetched} :
    f ∈ stage.learned reply ↔ stage.Learns reply f := by
  unfold learned Learns
  cases hasks : stage.asks? with
  | none => simp
  | some pair =>
    obtain ⟨player, objective⟩ := pair
    obtain ⟨p, o, value⟩ := f
    simp only [List.mem_map, Option.mem_toList, Option.some.injEq, Prod.mk.injEq, Fetched.mk.injEq]
    constructor
    · rintro ⟨v, hv, rfl, rfl, rfl⟩
      exact ⟨⟨rfl, rfl⟩, hv⟩
    · rintro ⟨⟨rfl, rfl⟩, hvalue⟩
      exact ⟨value, hvalue, rfl, rfl, rfl⟩

/-- A reply tells of one score at most. -/
theorem Stage.length_learned_le (stage : Stage) (reply : String) : (stage.learned reply).length ≤ 1 := by
  unfold learned
  split
  · rw [List.length_map]
    cases Reply.score? reply <;> simp
  · simp

/-- With each reply a synchronisation has one score less to read. -/
theorem Sync.left_take (sync : Sync) (reply : String) : (sync.take reply).left = sync.left.tail := by
  unfold take
  split
  · rename_i hleft
    rw [hleft]
    rfl
  · rename_i hleft
    rw [hleft]
    split <;> rfl

/-- A reply is added to the scores read if it tells of one. -/
theorem Sync.fetched_take (sync : Sync) (reply : String) :
    (sync.take reply).fetched = (Stage.syncing sync).learned reply ++ sync.fetched := by
  unfold take
  split
  · rename_i hleft
    simp [Stage.learned, Stage.asks?, hleft]
  · rename_i player objective left hleft
    split
    · rename_i value hvalue
      simp [Stage.learned, Stage.asks?, hleft, hvalue]
    · rename_i hnone
      simp [Stage.learned, Stage.asks?, hleft, hnone]

/-- What is entered is all that has been read, or nothing yet. -/
theorem publishes_cases (stage : Stage) (reply : String) :
    stage.publishes reply = [] ∨ stage.publishes reply = stage.learned reply ++ stage.holds := by
  cases stage with
  | readingScore player objective => exact .inr (List.append_nil _).symm
  | syncing sync =>
    simp only [Stage.publishes]
    split
    · exact .inr (sync.fetched_take reply)
    · exact .inl rfl
  | _ => exact .inl rfl

/-- What is entered with a reply has been held, or the reply tells of it. -/
theorem mem_publishes {stage : Stage} {reply : String} {f : Fetched} (hf : f ∈ stage.publishes reply) :
    f ∈ stage.holds ∨ stage.Learns reply f := by
  obtain hnone | hall := publishes_cases stage reply
  · rw [hnone] at hf
    cases hf
  · rw [hall, List.mem_append, Stage.mem_learned_iff] at hf
    exact hf.symm

namespace Engine

variable {e : Engine} {commands : List Command} {stage : Stage}

/-- An operation that begins to wait for a score has asked for just this one. -/
theorem Opens.asks {operation : Operation} {draws : Draws}
    (opens : e.Opens draws operation commands stage) {player objective : String}
    (hasks : stage.asks? = some (player, objective)) :
    commands = [.getScore player objective] := by
  cases opens with
  | getScore known =>
    cases hasks
    rfl
  | _ => cases hasks

/-- An operation that goes on to wait for a score has asked for just this one. -/
theorem Continues.asks {reply : String} {waiting : Stage}
    (continues : e.Continues reply waiting commands stage) {player objective : String}
    (hasks : stage.asks? = some (player, objective)) :
    commands = [.getScore player objective] := by
  cases continues with
  | @first players p o left listed pairs =>
    have hhead : (Sync.create players e.objectives).left.head? = some (player, objective) := hasks
    rw [pairs] at hhead
    cases hhead
    rfl
  | @next sync p o left pairs =>
    have hhead : (sync.take reply).left.head? = some (player, objective) := hasks
    rw [pairs] at hhead
    cases hhead
    rfl
  | remove listed stale => cases hasks

/-- An operation that begins reads registered objectives only, and has read nothing. -/
theorem Opens.scores {operation : Operation} {draws : Draws}
    (opens : e.Opens draws operation commands stage) :
    (∀ objective ∈ stage.wants, objective ∈ e.objectives) ∧ stage.holds = [] := by
  cases opens with
  | @getScore plugin player name known =>
    refine ⟨fun objective hmem => ?_, rfl⟩
    rw [List.mem_singleton.mp hmem]
    exact of_decide_eq_true known
  | _ => exact ⟨fun _ hmem => absurd hmem List.not_mem_nil, rfl⟩

/-- After a wait an operation holds what it held before and what the reply tells of. -/
theorem Continues.holds {reply : String} {waiting : Stage}
    (continues : e.Continues reply waiting commands stage) :
    stage.holds = waiting.learned reply ++ waiting.holds := by
  cases continues with
  | first listed pairs => rfl
  | @next sync p o left pairs => exact sync.fetched_take reply
  | remove listed stale => rfl

/-- After a wait an operation reads what it was to read before, or what is registered, and it holds what it
held before, or what the reply tells of. -/
theorem Continues.scores {reply : String} {waiting : Stage}
    (continues : e.Continues reply waiting commands stage) :
    (∀ objective ∈ stage.wants, objective ∈ waiting.wants ∨ objective ∈ e.objectives) ∧
      ∀ f ∈ stage.holds, f ∈ waiting.holds ∨ waiting.Learns reply f := by
  refine ⟨fun objective hmem => ?_, fun f hf => ?_⟩
  -- the first score of a synchronisation is of an objective that is registered now, and the next one of those that
  -- it set out with
  · cases continues with
    | @first players p o left listed pairs =>
      right
      obtain ⟨pair, hpair, rfl⟩ := List.mem_map.mp hmem
      obtain ⟨player, _, hpair⟩ := List.mem_flatMap.mp hpair
      obtain ⟨objective, hobjective, rfl⟩ := List.mem_map.mp hpair
      exact hobjective
    | @next sync p o left pairs =>
      left
      obtain ⟨pair, hpair, rfl⟩ := List.mem_map.mp hmem
      rw [sync.left_take] at hpair
      exact List.mem_map_of_mem (List.mem_of_mem_tail hpair)
    | remove listed stale => exact absurd hmem List.not_mem_nil
  · rw [continues.holds, List.mem_append, Stage.mem_learned_iff] at hf
    exact hf.symm

/-- Only a call for one score begins to wait for it, and only if its objective is registered. -/
theorem Opens.reading {operation : Operation} {draws : Draws} {player objective : String}
    (opens : e.Opens draws operation commands (.readingScore player objective)) :
    ∃ plugin name, operation = .getScore plugin player name ∧ plugin.objectiveName name = objective ∧
      objective ∈ e.objectives := by
  cases opens with
  | @getScore plugin _ name known => exact ⟨plugin, name, rfl, rfl, of_decide_eq_true known⟩

theorem Continues.reading {reply : String} {waiting : Stage} {player objective : String} :
    ¬e.Continues reply waiting commands (.readingScore player objective) := by
  intro continues
  cases continues

end Engine

end Scoreboard

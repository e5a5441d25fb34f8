import Scoreboard.Proofs.Engine.Stretch

/-!
# What a stretch changes

An engine after a stretch of an operation, from the one before (`begin_engine`, `resume_engine`), and what
that comes to for its registry, cache and triggers (`begin_changes`, `resume_changes`). The stretch from the
beginning changes none of these but for the triggers it binds (`Next.names?`). After a wait, an objective
that has been added is entered at the end of the registry (`registers`), and scores that have been read are
entered in the cache (`Stage.publishes`), where their players stay (`knows_resume`).
-/

namespace Scoreboard

/-- Whether a score is one of a player in an objective. -/
def Fetched.isFor (player objective : String) (f : Fetched) : Bool :=
  f.player = player && f.objective = objective

/-- Whether a player is in the cache, with or without scores. -/
def Scores.knows (s : Scores) (player : String) : Bool := (s.get? player).isSome

/-- The newest score of a player in an objective, where the newest score comes first. -/
def lastValue? (scores : List Fetched) (player objective : String) : Option Int64 :=
  (scores.find? (Fetched.isFor player objective)).map Fetched.value

/-- The newest score counts if it is for the player and the objective, and else those before it. -/
theorem lastValue?_cons (f : Fetched) (scores : List Fetched) (player objective : String) :
    lastValue? (f :: scores) player objective =
      if f.player = player ∧ f.objective = objective then some f.value
      else lastValue? scores player objective := by
  unfold lastValue?
  by_cases hf : f.player = player ∧ f.objective = objective
  · have hfor : f.isFor player objective = true := by simp [Fetched.isFor, hf]
    rw [List.find?_cons_of_pos hfor, if_pos hf]
    rfl
  · have hfor : ¬f.isFor player objective = true := by simpa [Fetched.isFor] using hf
    rw [List.find?_cons_of_neg hfor, if_neg hf]

/-- Newer scores count before older ones. -/
theorem lastValue?_append (scores older : List Fetched) (player objective : String) :
    lastValue? (scores ++ older) player objective =
      (lastValue? scores player objective).or (lastValue? older player objective) := by
  unfold lastValue?
  rw [List.find?_append]
  cases scores.find? (Fetched.isFor player objective) <;> rfl

/-- To get to know a player forgets no other one. -/
theorem Scores.knows_know (s : Scores) (player other : String) :
    (s.know player).knows other = (decide (player = other) || s.knows other) := by
  unfold knows know
  rw [Table.get?_insertNew]
  by_cases h : player = other
  · rw [if_pos h, decide_eq_true h]
    rfl
  · rw [if_neg h, decide_eq_false h]
    rfl

/-- A player is known by a score of theirs. -/
theorem Scores.knows_put (s : Scores) (player objective other : String) (value : Int64) :
    (s.put player objective value).knows other = (decide (player = other) || s.knows other) := by
  unfold knows put
  rw [Table.get?_insert]
  by_cases h : player = other
  · rw [if_pos h, decide_eq_true h]
    rfl
  · rw [if_neg h, decide_eq_false h]
    rfl

/-- Players who are got to know are known. -/
theorem Scores.knows_foldl_know (players : List String) (scores : Scores) (player : String) :
    (players.foldl know scores).knows player = (decide (player ∈ players) || scores.knows player) := by
  induction players generalizing scores with
  | nil => rfl
  | cons p players ih =>
    rw [List.foldl_cons, ih, Scores.knows_know]
    simp [Bool.or_left_comm, Bool.or_assoc, eq_comm]

/-- Who has an entry after a synchronisation: who had one, who is listed, and whose score has been read. -/
theorem Sync.knows_publish (sync : Sync) (scores : Scores) (player : String) :
    (sync.publish scores).knows player =
      (sync.fetched.any (·.player = player) || (decide (player ∈ sync.players) || scores.knows player)) := by
  rw [publish, List.foldl_reverse]
  induction sync.fetched with
  | nil => exact Scores.knows_foldl_know sync.players scores player
  | cons f fetched ih => rw [List.foldr_cons, Scores.knows_put, ih, List.any_cons, Bool.or_assoc]

/-- What is published at once is in the cache afterwards, the newest score of each kind. -/
theorem Sync.value?_publish (sync : Sync) (scores : Scores) (player objective : String) :
    (sync.publish scores).value? player objective =
      (lastValue? sync.fetched player objective).or (scores.value? player objective) := by
  -- a player made known has no scores yet, or those he had
  have hknow : (sync.players.foldl Scores.know scores).value? player objective =
      scores.value? player objective := by
    induction sync.players generalizing scores with
    | nil => rfl
    | cons p players ih => rw [List.foldl_cons, ih, Scores.value?_know]
  -- entering in the order of reading leaves the score read last
  rw [publish, List.foldl_reverse]
  induction sync.fetched with
  | nil => exact hknow
  | cons f fetched ih =>
    rw [List.foldr_cons, Scores.value?_put, lastValue?_cons]
    split
    · rfl
    · exact ih

namespace Engine

/-- The engine after a stretch that begins an operation. -/
theorem begin_engine (e : Engine) (operation : Operation) (draws : Draws) :
    let o := (e.begin operation draws).1
    ∃ stats, o.engine = { e with
      stats
      triggers := ((o.next.names?.getD []).zip operation.callbacks).foldl (fun t b => t.insert b.1 b.2) e.triggers
      debouncer := if operation.asksSync then e.debouncer.send .request else e.debouncer } := by
  have begins := e.begins_begin operation draws
  simp only
  generalize (e.begin operation draws).1 = o at begins
  cases begins with
  | sends opens _ unnamed =>
    rw [unnamed, opens.asksSync]
    exact ⟨_, rfl⟩
  | binds opens _ =>
    rw [opens.asksSync]
    exact ⟨_, rfl⟩
  | idle _ asks | endless _ asks =>
    rw [asks]
    exact ⟨_, rfl⟩
  | syncs | requests => exact ⟨_, rfl⟩

/-- An operation that begins changes neither the registry nor the cache, and binds the names that it sends. -/
theorem begin_changes (e : Engine) (operation : Operation) (draws : Draws) :
    let o := (e.begin operation draws).1
    o.engine.objectives = e.objectives ∧ o.engine.scores = e.scores ∧
      o.engine.triggers = ((o.next.names?.getD []).zip operation.callbacks).foldl
        (fun t b => t.insert b.1 b.2) e.triggers := by
  obtain ⟨stats, hengine⟩ := e.begin_engine operation draws
  simp only
  generalize hn : (e.begin operation draws).1.next.names? = names at hengine ⊢
  rw [hengine]
  exact ⟨rfl, rfl, rfl⟩

/-- The engine after a stretch that ends a wait. -/
theorem resume_engine (e : Engine) (stage : Stage) (reply : String) :
    ∃ stats scores, (e.resume stage reply).engine = { e with
      stats
      scores
      objectives := e.objectives ++ e.registers stage
      debouncer := if e.registers stage = [] then e.debouncer else e.debouncer.send .request } := by
  have same : e.objectives = e.objectives ++ [] := (List.append_nil _).symm
  have resumes := e.resumes_resume stage reply
  generalize e.resume stage reply = o at resumes
  cases resumes with
  | enters fresh =>
    have registers : e.registers (.adding _) = [_] := if_neg (by simpa using fresh)
    rw [registers]
    exact ⟨_, _, rfl⟩
  | sends continues =>
    rw [continues.quiet.registers, ← same]
    exact ⟨_, _, rfl⟩
  | publishes quiet _ | idle quiet _ =>
    rw [quiet.registers, ← same]
    exact ⟨_, _, rfl⟩
  | _ =>
    simp only [registers, ← same]
    exact ⟨_, _, rfl⟩

/-- After a reply the cache holds what it enters, and else what it held. -/
theorem value?_resume (e : Engine) (stage : Stage) (reply player objective : String) :
    (e.resume stage reply).engine.scores.value? player objective =
      (lastValue? (stage.publishes reply) player objective).or (e.scores.value? player objective) := by
  -- scores come from a single reading, and from the last reply of a synchronisation
  have resumes := e.resumes_resume stage reply
  generalize e.resume stage reply = o at resumes
  cases resumes with
  | @reads p o value _ _ score =>
    rw [Stage.publishes, score]
    show (e.scores.put p o value).value? player objective = _
    rw [Scores.value?_put, Option.toList_some, List.map_singleton, lastValue?_cons]
    split <;> rfl
  | misses score =>
    rw [Stage.publishes, score]
    rfl
  | @publishes _ sync _ _ _ read =>
    rw [read]
    exact sync.value?_publish e.scores player objective
  | sends continues =>
    rw [continues.publishes]
    rfl
  | idle _ read =>
    rw [read]
    rfl
  | _ => rfl

/-- A reply enters what its stage is to enter in registry and cache, and binds nothing. -/
theorem resume_changes (e : Engine) (stage : Stage) (reply : String) :
    let o := e.resume stage reply
    o.engine.objectives = e.objectives ++ e.registers stage ∧
      (∀ player objective, o.engine.scores.value? player objective =
        (lastValue? (stage.publishes reply) player objective).or (e.scores.value? player objective)) ∧
      o.engine.triggers = e.triggers := by
  obtain ⟨stats, scores, hengine⟩ := e.resume_engine stage reply
  refine ⟨?_, fun player objective => e.value?_resume stage reply player objective, ?_⟩
  · rw [hengine]
  · rw [hengine]

/-- A player who is in the cache stays there. -/
theorem knows_resume {e : Engine} {player : String} (h : e.scores.knows player) (stage : Stage)
    (reply : String) : (e.resume stage reply).engine.scores.knows player := by
  -- scores are entered by readings and synchronisations, and none is taken out
  have resumes := e.resumes_resume stage reply
  generalize e.resume stage reply = o at resumes
  cases resumes with
  | @reads p o value _ _ _ =>
    show (e.scores.put p o value).knows player
    rw [Scores.knows_put, h, Bool.or_true]
  | @publishes _ sync _ _ _ _ =>
    show (sync.publish e.scores).knows player
    rw [sync.knows_publish, h, Bool.or_true, Bool.or_true]
  | _ => exact h

end Engine

end Scoreboard

import Scoreboard.Proofs.Cache

/-!
# In which order scores are entered

An operation that reads one score enters it as soon as it is told; a full synchronisation holds back what it is
told until the last reply, and enters it all then. So while a synchronisation runs, a newer score that
has been entered meanwhile can be replaced by an older one (`goes_back`).

Main statement (`enteredInOrder_of_trace`): this is the only way in which the cache goes back. In every trace, a
score that replaces another one has been answered later, or it comes from an operation that had been told it
before the score that it replaces was even asked for, and that was still waiting when this one was entered
(`EnteredInOrder`).
-/

namespace Scoreboard.Host

/-- Whether an operation, with its turn `n`, enters a score that it was told at turn `m`: the newest of those for
the same player and objective. -/
def Enters (i : Nat) (past : List Taken) (begun m n : Nat) (f : Fetched) : Prop :=
  ∃ answers s, Course i past begun n answers ∧ turnAt? past n = some s ∧
    s.published i = answers.map Prod.snd ∧
      answers.find? (fun a => a.2.isFor f.player f.objective) = some (m, f)

/-- In which order scores are entered in an engine's cache. -/
structure EnteredInOrder (i : Nat) (past : List Taken) (h : Host) : Prop where
  /-- A score in the cache has been entered by an operation, and none for its player and objective after it. -/
  last : ∀ player objective value, h.cached? i player objective = some value →
    ∃ begun m n, Enters i past begun m n ⟨player, objective, value⟩ ∧
      ∀ begun' m' n' f, Enters i past begun' m' n' f → f.player = player → f.objective = objective →
        n' ≤ n
  /-- The console has answered it after the operation had begun, to the command for just this score. -/
  answered : ∀ begun m n f, Enters i past begun m n f → begun ≤ m ∧ m < n ∧
    ∃ s origin stage reply, turnAt? past m = some s ∧
      .sent i origin stage [.getScore f.player f.objective] reply ∈ s.deeds ∧
        Reply.score? reply = some f.value
  /-- What an operation has been told stands in the order of the answers, the newest first. -/
  sorted : ∀ begun n answers, Course i past begun n answers → answers.Pairwise (·.1 > ·.1)
  /-- A score that is entered after another one, of the same player and objective or not, has been answered
  after that one as well, or its operation has carried it since before that one was entered. -/
  replaced : ∀ begun m n f, Enters i past begun m n f → ∀ begun' m' n' f', Enters i past begun' m' n' f' →
    n < n' → m ≤ m' ∨ m' < m ∧ Carries i past begun' m' n f'

/-! ### What a turn enters -/

section

variable {i : Nat} {past : List Taken} {s : Taken} {begun m n : Nat} {answers : List (Nat × Fetched)}
  {f : Fetched}

/-- A turn that has an operation wait enters nothing. -/
theorem published_eq_nil_of_leaves {origin : Origin} {stage : Stage} {reply : String}
    (hleaves : .resume origin i stage reply ∈ s.leaves) : s.published i = [] := by
  obtain ⟨o, commands, hstretch, hn, -⟩ := resume_mem_leaves.mp hleaves
  obtain ⟨e, -, ⟨operation, hturn, -⟩ | ⟨waiting, reply', hturn, rfl⟩⟩ := stretch?_eq_some_iff.mp hstretch
  · exact published_eq_nil (by simp [hturn])
  · have hpublishes := (Engine.resume_eq_send_iff.mp hn).publishes
    rw [Taken.published, hturn]
    exact (if_pos rfl).trans hpublishes

/-- A turn enters all that its operation has been told, or nothing. -/
theorem Course.published (course : Course i past begun n answers) (hs : turnAt? past n = some s) :
    s.published i = [] ∨ s.published i = answers.map Prod.snd := by
  cases course with
  | begins here turn =>
    obtain rfl := Option.some.inj (here.symm.trans hs)
    exact .inl (published_eq_nil (by simp [turn]))
  | @goesOn m n answers origin stage reply before wait =>
    obtain ⟨s', hs', hturn⟩ := wait.taken
    obtain rfl := Option.some.inj (hs'.symm.trans hs)
    obtain ⟨sender, hsender, hleaves⟩ := wait.left
    have hholds := before.holds hsender hleaves
    have hpublished : s'.published i = stage.publishes reply := by
      rw [Taken.published, hturn]
      exact if_pos rfl
    rw [hpublished, map_snd_told, ← hholds]
    exact publishes_cases stage reply

/-- The last value for a player and an objective is that of the newest answer about them. -/
theorem lastValue?_map_snd (answers : List (Nat × Fetched)) (player objective : String) :
    lastValue? (answers.map Prod.snd) player objective =
      (answers.find? fun a => a.2.isFor player objective).map (·.2.value) := by
  rw [lastValue?, List.find?_map, Option.map_map]
  rfl

/-- What an operation enters is what its turn publishes last for the player and the objective. -/
theorem Enters.turn (enters : Enters i past begun m n f) :
    ∃ s, turnAt? past n = some s ∧ lastValue? (s.published i) f.player f.objective = some f.value := by
  obtain ⟨answers, s, -, hs, hpublished, hfind⟩ := enters
  refine ⟨s, hs, ?_⟩
  rw [hpublished, lastValue?_map_snd, hfind]
  rfl

theorem Enters.append (enters : Enters i past begun m n f) (recent : List Taken) :
    Enters i (recent ++ past) begun m n f := by
  obtain ⟨answers, s, course, hs, hentered⟩ := enters
  exact ⟨answers, s, course.append recent, turnAt?_append hs recent, hentered⟩

theorem Enters.mem (enters : Enters i past begun m n f) :
    ∃ answers, Course i past begun n answers ∧ (m, f) ∈ answers := by
  obtain ⟨answers, s, course, -, -, hfind⟩ := enters
  exact ⟨answers, course, List.mem_of_find?_eq_some hfind⟩

end

/-! ### The whole trace -/

section

variable {latency : Nat} {rules : List Rule} {draws : Draws} {config : Config} {h : Host} {past : List Taken}
  {i n : Nat} {player objective : String} {value : Int64}

/-- The score that counts has been entered by a turn, and none for its player and objective by a later one. -/
theorem exists_turnAt?_of_lastValue? (hlast : lastValue? (publications i past) player objective = some value) :
    ∃ n s, turnAt? past n = some s ∧ lastValue? (s.published i) player objective = some value ∧
      ∀ k s', turnAt? past k = some s' → n < k → lastValue? (s'.published i) player objective = none := by
  induction past with
  | nil => cases hlast
  | cons s past ih =>
    rw [publications, List.flatMap_cons, lastValue?_append] at hlast
    -- the newest turn publishes a value for them, or the value is that of an earlier one
    rcases hnew : lastValue? (s.published i) player objective with _ | newest
    · rw [hnew, Option.none_or] at hlast
      obtain ⟨n, s', hs', hvalue, hnone⟩ := ih hlast
      refine ⟨n, s', turnAt?_append hs' [s], hvalue, fun k t hk hlater => ?_⟩
      obtain ⟨-, hbefore⟩ | ⟨-, rfl⟩ := turnAt?_cons_cases hk
      · exact hnone k t hbefore hlater
      · exact hnew
    · rw [hnew, Option.some_or] at hlast
      refine ⟨past.length, s, turnAt?_length s past, hnew.trans hlast, fun k t hk hlater => ?_⟩
      have hlt := lt_of_turnAt? hk
      rw [List.length_cons] at hlt
      omega

/-- What a turn enters, an operation enters that has been told it. -/
theorem Trace.exists_enters (trace : Trace (start latency rules draws config) past h) {s : Taken}
    (hs : turnAt? past n = some s) (hvalue : lastValue? (s.published i) player objective = some value) :
    ∃ begun m, Enters i past begun m n ⟨player, objective, value⟩ := by
  have hne : s.published i ≠ [] := by
    intro hnil
    rw [hnil] at hvalue
    cases hvalue
  -- only a turn that takes a reply enters anything
  obtain ⟨origin, stage, reply, hturn⟩ : ∃ origin stage reply, s.turn = .resume origin i stage reply := by
    by_contra hno
    push Not at hno
    exact hne (published_eq_nil hno)
  obtain ⟨begun, answers, course⟩ := trace.exists_course hs hturn
  have hpublished := (course.published hs).resolve_left hne
  rw [hpublished, lastValue?_map_snd] at hvalue
  obtain ⟨⟨m, f⟩, hfind, rfl⟩ := Option.map_eq_some_iff.mp hvalue
  have hfor : f.player = player ∧ f.objective = objective := by
    simpa [Fetched.isFor] using List.find?_some hfind
  obtain ⟨rfl, rfl⟩ := hfor
  exact ⟨begun, m, answers, s, course, hs, hpublished, hfind⟩

/-- A cached value is the one entered last, and no later turn has entered another one for the same player and
objective. -/
theorem Trace.last_enters (trace : Trace (start latency rules draws config) past h)
    (hcached : h.cached? i player objective = some value) :
    ∃ begun m n, Enters i past begun m n ⟨player, objective, value⟩ ∧
      ∀ begun' m' n' f, Enters i past begun' m' n' f → f.player = player → f.objective = objective →
        n' ≤ n := by
  rw [trace.cached?_eq] at hcached
  obtain ⟨n, s, hs, hvalue, hnone⟩ := exists_turnAt?_of_lastValue? hcached
  obtain ⟨begun, m, enters⟩ := trace.exists_enters hs hvalue
  refine ⟨begun, m, n, enters, ?_⟩
  rintro begun' m' n' f enters' rfl rfl
  obtain ⟨s', hs', hsome⟩ := enters'.turn
  by_contra hlater
  rw [hnone n' s' hs' (by omega)] at hsome
  cases hsome

/-- In every trace, the cache goes back to a score only through an operation that has carried it since before. -/
theorem enteredInOrder_of_trace (trace : Trace (start latency rules draws config) past h) (i : Nat) :
    EnteredInOrder i past h where
  last player objective value := trace.last_enters
  answered begun m n f enters := by
    obtain ⟨answers, course, hmem⟩ := enters.mem
    obtain ⟨hbegun, hm⟩ := course.range hmem
    exact ⟨hbegun, hm, course.told hmem⟩
  sorted begun n answers course := course.sorted
  replaced begun m n f enters begun' m' n' f' enters' hlater := by
    by_cases hle : m ≤ m'
    · exact .inl hle
    refine .inr ⟨Nat.lt_of_not_le hle, ?_⟩
    obtain ⟨answers, course, hmem⟩ := enters.mem
    obtain ⟨answers', course', hmem'⟩ := enters'.mem
    have hm := (course.range hmem).2
    refine (course'.carries hmem' (by omega) hlater).resolve_right ?_
    -- a turn that enters a score leaves no wait
    rintro ⟨s, origin, stage, reply, hs, hleaves⟩
    obtain ⟨s', hs', hvalue⟩ := enters.turn
    obtain rfl := Option.some.inj (hs'.symm.trans hs)
    rw [published_eq_nil_of_leaves hleaves] at hvalue
    cases hvalue

end

/-! ### A run that goes back -/

/-- Whether an event is a command that the console answers with a score. -/
def tells (value : Int64) : Event → Bool
  | .sent _ _ _ _ reply => Reply.score? reply = some value
  | _ => false

/-- The value entered is told by a reply in the journal. -/
theorem Enters.tells {i : Nat} {past : List Taken} {begun m n : Nat} {f : Fetched}
    (enters : Enters i past begun m n f) :
    ∃ s, turnAt? past m = some s ∧ ∃ event ∈ s.deeds, Host.tells f.value event := by
  obtain ⟨answers, course, hmem⟩ := enters.mem
  obtain ⟨s, origin, stage, reply, hs, hdeed, hvalue⟩ := course.told hmem
  exact ⟨s, hs, _, hdeed, decide_eq_true hvalue⟩

/-- Two players, of whom one is asked for twice: by a synchronisation, and once more while this waits for the
score of the other. In between the console replies otherwise. -/
theorem exists_overlap : ∃ older a recent b newest c,
    Trace (start 10 [.toCommand "scoreboard players list" "There are 2 tracked entity/entities: Alice, Bob",
      .toStart "scoreboard players get Alice" "Alice has 1 [kills]"] {} {}) older a ∧
      Trace a recent b ∧ Trace b newest c ∧
        b.cached? 0 "Alice" "tQaBe_kills" = some 9 ∧ c.cached? 0 "Alice" "tQaBe_kills" = some 1 ∧
          a.history.countP (tells 9) = 0 ∧ c.history.countP (tells 1) = a.history.countP (tells 1) := by
  let rules := [Rule.toCommand "scoreboard players list" "There are 2 tracked entity/entities: Alice, Bob",
    .toStart "scoreboard players get Alice" "Alice has 1 [kills]"]
  let ensure := Request.operate 0 (.ensure ⟨"demo", "demo"⟩ "kills" "dummy" "Kills")
  let read := Request.operate 0 (.getScore ⟨"demo", "demo"⟩ "Alice" "kills")
  -- the full synchronisation has read the score of 1 when the other call reads 9; it publishes after that
  have run : ((((start 10 rules {} {}).drive 50 ensure).bind (drive 50 · (.spawn "all" (.operate 0 .sync)))).bind
      (drive 50 · (.sleep 15))).bind (fun a =>
        ((a.drive 50 (.respond [.toStart "scoreboard players get Alice" "Alice has 9 [kills]"])).bind
          (drive 50 · read)).bind fun b => (b.drive 50 (.sleep 10)).map fun c =>
            (b.cached? 0 "Alice" "tQaBe_kills", c.cached? 0 "Alice" "tQaBe_kills",
              a.history.countP (tells 9), decide (c.history.countP (tells 1) = a.history.countP (tells 1)))) =
        some (some 9, some 1, 0, true) := by decide +kernel
  obtain ⟨a, hfirst, hrun⟩ := Option.bind_eq_some_iff.mp run
  obtain ⟨b, hsecond, hrun⟩ := Option.bind_eq_some_iff.mp hrun
  obtain ⟨c, hslept, hend⟩ := Option.map_eq_some_iff.mp hrun
  obtain ⟨spawned, hspawned, hpaused⟩ := Option.bind_eq_some_iff.mp hfirst
  obtain ⟨ensured, hensured, hspawned⟩ := Option.bind_eq_some_iff.mp hspawned
  obtain ⟨changed, hchanged, hread⟩ := Option.bind_eq_some_iff.mp hsecond
  obtain ⟨older, first⟩ :=
    ((steps_of_drive hensured).trans (steps_of_drive hspawned)).trans (steps_of_drive hpaused)
  obtain ⟨recent, second⟩ := (steps_of_drive hchanged).trans (steps_of_drive hread)
  obtain ⟨newest, third⟩ := steps_of_drive hslept
  obtain ⟨hnine, hone, huntold, htold⟩ : b.cached? 0 "Alice" "tQaBe_kills" = some 9 ∧
      c.cached? 0 "Alice" "tQaBe_kills" = some 1 ∧ a.history.countP (tells 9) = 0 ∧
        c.history.countP (tells 1) = a.history.countP (tells 1) := by
    simpa only [Prod.mk.injEq, decide_eq_true_eq] using hend
  exact ⟨older, a, recent, b, newest, c, first, second, third, hnine, hone, huntold, htold⟩

/-- The run in which the two overlap. -/
theorem enteredInOrder_of_overlap : ∃ past h,
    Trace (start 10 [.toCommand "scoreboard players list" "There are 2 tracked entity/entities: Alice, Bob",
      .toStart "scoreboard players get Alice" "Alice has 1 [kills]"] {} {}) past h ∧
      EnteredInOrder 0 past h ∧ h.cached? 0 "Alice" "tQaBe_kills" = some 1 := by
  obtain ⟨older, a, recent, b, newest, c, first, second, third, -, hone, -, -⟩ := exists_overlap
  have trace := (first.trans second).trans third
  exact ⟨_, c, trace, enteredInOrder_of_trace trace 0, hone⟩

/-- The cache goes back: the score of 9 is replaced by the score of 1, which the console has answered before. -/
theorem goes_back : ∃ past h,
    Trace (start 10 [.toCommand "scoreboard players list" "There are 2 tracked entity/entities: Alice, Bob",
      .toStart "scoreboard players get Alice" "Alice has 1 [kills]"] {} {}) past h ∧
      h.cached? 0 "Alice" "tQaBe_kills" = some 1 ∧
        ∃ begun m n begun' m' n', Enters 0 past begun m n ⟨"Alice", "tQaBe_kills", 9⟩ ∧
          Enters 0 past begun' m' n' ⟨"Alice", "tQaBe_kills", 1⟩ ∧ n < n' ∧ m' < m := by
  obtain ⟨older, a, recent, b, newest, c, first, second, third, hnine, hone, huntold, htold⟩ := exists_overlap
  obtain ⟨begun, m, n, nine, -⟩ := (first.trans second).last_enters hnine
  obtain ⟨begun', m', n', one, hlast⟩ := ((first.trans second).trans third).last_enters hone
  have nine := nine.append newest
  refine ⟨_, c, (first.trans second).trans third, hone, begun, m, n, begun', m', n', nine, one, ?_, ?_⟩
  · -- one turn does not enter both
    have hle := hlast begun m n _ nine rfl rfl
    obtain hlt | rfl := Nat.lt_or_eq_of_le hle
    · exact hlt
    · obtain ⟨s, hs, hvalue⟩ := nine.turn
      obtain ⟨s', hs', hvalue'⟩ := one.turn
      obtain rfl := Option.some.inj (hs.symm.trans hs')
      rw [hvalue] at hvalue'
      cases hvalue'
  · -- the score of 9 is told after the first turns, the score of 1 during these
    have hafter : older.length ≤ m := by
      obtain ⟨s, hs, event, hevent, htells⟩ := nine.tells
      rw [← List.append_assoc] at hs
      obtain ⟨-, hbefore⟩ | ⟨hle, -⟩ := turnAt?_append_cases hs
      · rw [first.history_of_start, List.countP_eq_zero] at huntold
        exact absurd htells (huntold event (List.mem_flatMap.mpr ⟨s, mem_of_turnAt? hbefore, hevent⟩))
      · exact hle
    have hbefore : m' < older.length := by
      obtain ⟨s, hs, event, hevent, htells⟩ := one.tells
      rw [← List.append_assoc] at hs
      obtain ⟨hlt, -⟩ | ⟨-, hmem⟩ := turnAt?_append_cases hs
      · exact hlt
      · rw [(second.trans third).history_eq, List.countP_append, Nat.add_eq_right, List.countP_eq_zero] at htold
        exact absurd htells (htold event (List.mem_flatMap.mpr ⟨s, hmem, hevent⟩))
    omega

end Scoreboard.Host

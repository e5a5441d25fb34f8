import Scoreboard.Proofs.Engine.Scores
import Scoreboard.Proofs.Host.Traces

/-!
# The course of an operation

The turns of a trace have numbers, the oldest first (`turnAt?`), and these order what happens. An operation
runs from the turn that begins it over waits for replies (`Wait`) to its later turns. A `Course` follows it, and
collects the scores that it is told on the way, each with the number of the turn in which the console has
answered.

Every turn that takes a reply has a course (`Trace.exists_course`). What the operation has been told is what it
holds while it waits (`Course.holds`), and at each turn in between the wait is part of the host's agenda, with
the score in the stage or in the reply (`Course.carries`).
-/

namespace Scoreboard.Host

/-- The turn with a number, where the oldest has the number 0. -/
def turnAt? (past : List Taken) (n : Nat) : Option Taken := past.reverse[n]?

/-- A wait for a reply, from the turn that leaves it to the one that takes the reply. -/
structure Wait (past : List Taken) (m n : Nat) (t : Turn) : Prop where
  left : ∃ s, turnAt? past m = some s ∧ t ∈ s.leaves
  taken : ∃ s, turnAt? past n = some s ∧ s.turn = t
  later : m < n
  between : ∀ k s, m < k → k < n → turnAt? past k = some s → t ∈ s.host.agenda

/-- What the operation of an engine that a turn has begun has been told up to another one of its turns: the
scores with the turns in which the console has answered, the newest first. -/
inductive Course (i : Nat) (past : List Taken) (begun : Nat) : Nat → List (Nat × Fetched) → Prop where
  | begins {s : Taken} {origin : Origin} {operation : Operation} (here : turnAt? past begun = some s)
      (turn : s.turn = .begin origin (.operate i operation)) : Course i past begun begun []
  | goesOn {m n : Nat} {answers : List (Nat × Fetched)} {origin : Origin} {stage : Stage} {reply : String}
      (before : Course i past begun m answers) (wait : Wait past m n (.resume origin i stage reply)) :
      Course i past begun n ((stage.learned reply).map (m, ·) ++ answers)

/-- Whether an operation waits while a turn is taken, and has been told a score by then, be it in the reply that
is on its way. -/
def Carries (i : Nat) (past : List Taken) (begun m k : Nat) (f : Fetched) : Prop :=
  ∃ j l answers origin stage reply, Course i past begun j answers ∧
    Wait past j l (.resume origin i stage reply) ∧ j < k ∧ k < l ∧
      ((m, f) ∈ answers ∨ m = j ∧ stage.Learns reply f)

/-! ### Turns by number -/

section

variable {past : List Taken} {m n : Nat} {s : Taken} {t : Turn}

theorem lt_of_turnAt? (h : turnAt? past n = some s) : n < past.length := by
  have hlt := (List.getElem?_eq_some_iff.mp h).1
  rwa [List.length_reverse] at hlt

/-- Later turns do not change the numbers of the earlier ones. -/
theorem turnAt?_append_of_lt (recent : List Taken) (h : n < past.length) :
    turnAt? (recent ++ past) n = turnAt? past n := by
  unfold turnAt?
  rw [List.reverse_append]
  exact List.getElem?_append_left (by simpa using h)

theorem turnAt?_append (h : turnAt? past n = some s) (recent : List Taken) :
    turnAt? (recent ++ past) n = some s := by
  rw [turnAt?_append_of_lt recent (lt_of_turnAt? h), h]

theorem turnAt?_length (s : Taken) (past : List Taken) : turnAt? (s :: past) past.length = some s := by
  unfold turnAt?
  rw [List.reverse_cons, List.getElem?_append_right (by simp)]
  simp

/-- A turn is one of the earlier ones, with the same number, or one of the later ones. -/
theorem turnAt?_append_cases {recent : List Taken} (h : turnAt? (recent ++ past) n = some s) :
    n < past.length ∧ turnAt? past n = some s ∨ past.length ≤ n ∧ s ∈ recent := by
  obtain hlt | hle := Nat.lt_or_ge n past.length
  · rw [turnAt?_append_of_lt recent hlt] at h
    exact .inl ⟨hlt, h⟩
  · have hlength : past.reverse.length ≤ n := by simpa using hle
    unfold turnAt? at h
    rw [List.reverse_append, List.getElem?_append_right hlength] at h
    exact .inr ⟨hle, List.mem_reverse.mp (List.mem_of_getElem? h)⟩

/-- A turn is the last one, or one of those before it. -/
theorem turnAt?_cons_cases {last : Taken} (h : turnAt? (last :: past) n = some s) :
    n < past.length ∧ turnAt? past n = some s ∨ n = past.length ∧ s = last := by
  have hlt := lt_of_turnAt? h
  rw [List.length_cons] at hlt
  rw [← List.singleton_append] at h
  obtain hbefore | ⟨hle, hmem⟩ := turnAt?_append_cases h
  · exact .inl hbefore
  · exact .inr ⟨by omega, List.mem_singleton.mp hmem⟩

theorem mem_of_turnAt? (h : turnAt? past n = some s) : s ∈ past :=
  List.mem_reverse.mp (List.mem_of_getElem? h)

/-- A wait that is over stays as it was when other turns follow. -/
theorem Wait.append (wait : Wait past m n t) (recent : List Taken) : Wait (recent ++ past) m n t := by
  obtain ⟨sender, hsender, hleaves⟩ := wait.left
  obtain ⟨s, hs, hturn⟩ := wait.taken
  refine ⟨⟨sender, turnAt?_append hsender recent, hleaves⟩, ⟨s, turnAt?_append hs recent, hturn⟩,
    wait.later, ?_⟩
  intro k s' hm hn hk
  have hlt := lt_of_turnAt? hs
  rw [turnAt?_append_of_lt recent (by omega)] at hk
  exact wait.between k s' hm hn hk

/-- The course of an operation stays as it was when other turns follow. -/
theorem Course.append {i begun : Nat} {answers : List (Nat × Fetched)}
    (course : Course i past begun n answers) (recent : List Taken) :
    Course i (recent ++ past) begun n answers := by
  induction course with
  | begins here turn => exact .begins (turnAt?_append here recent) turn
  | goesOn _ wait ih => exact .goesOn ih (wait.append recent)

end

/-! ### What a course says -/

section

variable {i : Nat} {past : List Taken} {begun m n : Nat} {answers : List (Nat × Fetched)} {f : Fetched}

theorem Course.begun_le (course : Course i past begun n answers) : begun ≤ n := by
  induction course with
  | begins _ _ => exact Nat.le_refl begun
  | goesOn _ wait ih => exact Nat.le_trans ih (Nat.le_of_lt wait.later)

/-- What an operation is told is answered after it has begun. -/
theorem Course.range (course : Course i past begun n answers) (ha : (m, f) ∈ answers) : begun ≤ m ∧ m < n := by
  induction course with
  | begins _ _ => cases ha
  | @goesOn m' n answers origin stage reply before wait ih =>
    have hlater := wait.later
    obtain hnew | hold := List.mem_append.mp ha
    · obtain ⟨f', _, heq⟩ := List.mem_map.mp hnew
      cases heq
      exact ⟨before.begun_le, hlater⟩
    · obtain ⟨hbegun, hm⟩ := ih hold
      omega

/-- An operation is told its scores one after another, so no two are answered in one turn. -/
theorem Course.sorted (course : Course i past begun n answers) : answers.Pairwise (·.1 > ·.1) := by
  induction course with
  | begins _ _ => exact .nil
  | @goesOn m n answers origin stage reply before wait ih =>
    rw [List.pairwise_append]
    refine ⟨?_, ih, fun a ha b hb => ?_⟩
    -- a reply tells of one score at most
    · have hlength := stage.length_learned_le reply
      match stage.learned reply, hlength with
      | [], _ => exact .nil
      | [f], _ => exact List.pairwise_singleton _ _
    · obtain ⟨f, _, rfl⟩ := List.mem_map.mp ha
      exact (before.range hb).2

theorem map_snd_told (m : Nat) (learned : List Fetched) (answers : List (Nat × Fetched)) :
    (learned.map (m, ·) ++ answers).map Prod.snd = learned ++ answers.map Prod.snd := by
  simp

/-- What an operation holds when it goes on to wait is what it has been told. -/
theorem Course.holds (course : Course i past begun n answers) {s : Taken} (hs : turnAt? past n = some s)
    {origin : Origin} {stage : Stage} {reply : String} (hleaves : .resume origin i stage reply ∈ s.leaves) :
    stage.holds = answers.map Prod.snd := by
  -- what the stage holds grows with the course: each reply adds to it what it tells
  induction course generalizing s origin stage reply with
  | @begins s' origin' operation here turn =>
    obtain rfl : s' = s := by simpa [here] using hs
    obtain ⟨o, commands, hstretch, hn, -⟩ := resume_mem_leaves.mp hleaves
    obtain ⟨e, -, ⟨operation', -, rfl⟩ | ⟨waiting, reply', hturn, -⟩⟩ := stretch?_eq_some_iff.mp hstretch
    · exact (Engine.begin_eq_send_iff.mp hn).scores.2
    · rw [turn] at hturn
      cases hturn
  | @goesOn m n answers origin' waiting reply' before wait ih =>
    obtain ⟨s', hs', hturn⟩ := wait.taken
    obtain rfl : s' = s := by simpa [hs'] using hs
    obtain ⟨sender, hsender, hleft⟩ := wait.left
    have hheld := ih hsender hleft
    obtain ⟨o, commands, hstretch, hn, -⟩ := resume_mem_leaves.mp hleaves
    obtain ⟨e, -, ⟨operation, hbegin, -⟩ | ⟨waiting', reply'', hresume, rfl⟩⟩ :=
      stretch?_eq_some_iff.mp hstretch
    · rw [hturn] at hbegin
      cases hbegin
    · rw [hturn] at hresume
      cases hresume
      rw [map_snd_told, ← hheld]
      exact (Engine.resume_eq_send_iff.mp hn).holds

/-- The command that is sent for a score is the one for just that score. -/
theorem commands_of_asks {h : Host} {t : Turn} {origin : Origin} {o : Outcome} {commands : List Command}
    {stage : Stage} {player objective : String} (hs : h.stretch? t = some (origin, i, o))
    (hn : o.next = .send commands stage) (hasks : stage.asks? = some (player, objective)) :
    commands = [.getScore player objective] := by
  obtain ⟨e, -, ⟨operation, -, rfl⟩ | ⟨waiting, reply, -, rfl⟩⟩ := stretch?_eq_some_iff.mp hs
  · exact (Engine.begin_eq_send_iff.mp hn).asks hasks
  · exact (Engine.resume_eq_send_iff.mp hn).asks hasks

/-- What an operation is told, the console has answered at that turn to the command for just this score. -/
theorem Course.told (course : Course i past begun n answers) (ha : (m, f) ∈ answers) :
    ∃ s origin stage reply, turnAt? past m = some s ∧
      .sent i origin stage [.getScore f.player f.objective] reply ∈ s.deeds ∧
        Reply.score? reply = some f.value := by
  induction course with
  | begins _ _ => cases ha
  | @goesOn m' n answers origin stage reply before wait ih =>
    -- the score is told by the last reply, or by one before it
    obtain hnew | hold := List.mem_append.mp ha
    · obtain ⟨f', hlearned, heq⟩ := List.mem_map.mp hnew
      cases heq
      obtain ⟨hasks, hvalue⟩ := Stage.mem_learned_iff.mp hlearned
      obtain ⟨sender, hsender, hleaves⟩ := wait.left
      obtain ⟨o, commands, hstretch, hn, hreply⟩ := resume_mem_leaves.mp hleaves
      have hcommands := commands_of_asks hstretch hn hasks
      rw [← hcommands]
      exact ⟨sender, origin, stage, reply, hsender, sent_mem_deeds.mpr ⟨o, hstretch, hn, hreply⟩, hvalue⟩
    · exact ih hold

/-- From the answer on an operation carries what it is told, but for the turns that are its own. -/
theorem Course.carries (course : Course i past begun n answers) (ha : (m, f) ∈ answers) {k : Nat} (hm : m < k)
    (hk : k < n) : Carries i past begun m k f ∨
      ∃ s origin stage reply, turnAt? past k = some s ∧ .resume origin i stage reply ∈ s.leaves := by
  induction course with
  | begins _ _ => cases ha
  | @goesOn j n answers origin stage reply before wait ih =>
    obtain hnew | hold := List.mem_append.mp ha
    -- what has been told last is in the reply that the wait is for
    · obtain ⟨f', hlearned, heq⟩ := List.mem_map.mp hnew
      cases heq
      left
      exact ⟨m, n, answers, origin, stage, reply, before, wait, hm, hk,
        .inr ⟨rfl, Stage.mem_learned_iff.mp hlearned⟩⟩
    -- what has been told before is held by then, or by an earlier wait
    · obtain hlt | rfl | hgt := Nat.lt_trichotomy k j
      · exact ih hold hlt
      · obtain ⟨sender, hsender, hleaves⟩ := wait.left
        exact .inr ⟨sender, origin, stage, reply, hsender, hleaves⟩
      · left
        exact ⟨j, n, answers, origin, stage, reply, before, wait, hgt, hk, .inl hold⟩

end

/-! ### Every reply has a course -/

section

variable {latency : Nat} {rules : List Rule} {draws : Draws} {config : Config} {h : Host} {past : List Taken}
  {n : Nat} {s : Taken} {origin : Origin} {i : Nat} {stage : Stage} {reply : String}

/-- A wait has been left by a turn, and has been part of the agenda since. -/
theorem Trace.left_of_mem_agenda (trace : Trace (start latency rules draws config) past h)
    (hmem : .resume origin i stage reply ∈ h.agenda) :
    ∃ m, (∃ s, turnAt? past m = some s ∧ .resume origin i stage reply ∈ s.leaves) ∧
      ∀ k s, m < k → turnAt? past k = some s → .resume origin i stage reply ∈ s.host.agenda := by
  induction trace with
  | refl => exact absurd hmem (Multiset.notMem_zero _)
  | @tail past h h' taken trace step ih =>
    cases taken with
    | none => exact ih (step.resume_mem_agenda hmem)
    | some last =>
      obtain ⟨rfl, -, -, hagenda⟩ := step.of_some
      -- the last turn has left it, or it has waited before
      obtain hleaves | hwaits := resume_mem_agenda_perform hmem
      · refine ⟨past.length, ⟨last, turnAt?_length last past, hleaves⟩, fun k s hlater hk => ?_⟩
        have hlt := lt_of_turnAt? hk
        rw [Option.toList_some, List.length_append, List.length_singleton] at hlt
        omega
      · have hbefore : .resume origin i stage reply ∈ h.agenda := by
          rw [hagenda]
          exact Multiset.mem_add.mpr (.inr hwaits)
        obtain ⟨m, ⟨sender, hsender, hleaves⟩, hbetween⟩ := ih hbefore
        refine ⟨m, ⟨sender, turnAt?_append hsender [last], hleaves⟩, fun k s hlater hk => ?_⟩
        rw [Option.toList_some, List.singleton_append] at hk
        obtain ⟨-, hk⟩ | ⟨-, rfl⟩ := turnAt?_cons_cases hk
        · exact hbetween k s hlater hk
        · exact hwaits

/-- A reply that is taken has been waited for. -/
theorem Trace.exists_wait (trace : Trace (start latency rules draws config) past h)
    (hs : turnAt? past n = some s) (hturn : s.turn = .resume origin i stage reply) :
    ∃ m, Wait past m n (.resume origin i stage reply) := by
  induction trace with
  | refl => cases hs
  | @tail past h h' taken trace step ih =>
    cases taken with
    | none => exact ih hs
    | some last =>
      rw [Option.toList_some, List.singleton_append] at hs ⊢
      obtain ⟨-, hbefore⟩ | ⟨rfl, rfl⟩ := turnAt?_cons_cases hs
      · obtain ⟨m, wait⟩ := ih hbefore
        exact ⟨m, wait.append [last]⟩
      -- a turn that is taken waits until then, and some turn has left it
      · have hmem : .resume origin i stage reply ∈ h.agenda := by
          rw [step.of_some.2.2.2, hturn, Multiset.mem_add]
          exact .inl (by simp [Turn.isWork])
        obtain ⟨m, ⟨sender, hsender, hleaves⟩, hbetween⟩ := trace.left_of_mem_agenda hmem
        refine ⟨m, ⟨sender, turnAt?_append hsender [s], hleaves⟩, ⟨s, hs, hturn⟩, lt_of_turnAt? hsender,
          ?_⟩
        intro k s' hlater hk hs'
        rw [← List.singleton_append, turnAt?_append_of_lt [s] hk] at hs'
        exact hbetween k s' hlater hs'

/-- An operation that takes a reply has a course. -/
theorem Trace.exists_course (trace : Trace (start latency rules draws config) past h)
    (hs : turnAt? past n = some s) (hturn : s.turn = .resume origin i stage reply) :
    ∃ begun answers, Course i past begun n answers := by
  induction n using Nat.strongRecOn generalizing s origin stage reply with
  | ind n ih =>
    obtain ⟨m, wait⟩ := trace.exists_wait hs hturn
    obtain ⟨sender, hsender, hleaves⟩ := wait.left
    -- the wait has been left by the turn that begins the operation, or by one that takes a reply as well
    obtain ⟨o, -, hstretch, -, -⟩ := resume_mem_leaves.mp hleaves
    obtain ⟨e, -, ⟨operation, hbegun, -⟩ | ⟨stage', reply', hresumed, -⟩⟩ :=
      stretch?_eq_some_iff.mp hstretch
    · exact ⟨m, _, .goesOn (.begins hsender hbegun) wait⟩
    · obtain ⟨begun, answers, course⟩ := ih m wait.later hsender hresumed
      exact ⟨begun, _, course.goesOn wait⟩

end

end Scoreboard.Host

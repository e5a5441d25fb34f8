import Scoreboard.Proofs.Host.Dialogues

/-!
# A full synchronisation from end to end

A full synchronisation asks for the list of players, then for the score of each of them in each objective that is
registered when the list comes, and enters what it was told. Main statement (`syncedAtOnce_of_trace`): in every
trace, whatever the console replies and whatever happens in between, it sends just these commands, player after
player and one at a time, nothing of it shows in the cache before its last reply, and then all of it does in one
turn (`SyncedAtOnce`).

What a full synchronisation has read is a function of the exchanges it has had (`Sync.reached`), so the invariant
is where its dialogue stands: it has taken a list that it does not understand, or it goes on with what it has
reached (`Dialogue.sync_cases`). All else is what one such turn sends, enters and answers.
-/

namespace Scoreboard

namespace Sync

/-- The commands of a full synchronisation of players and objectives after that for the players. -/
def script (players objectives : List String) : List String :=
  players.flatMap fun player => objectives.map fun objective =>
    "scoreboard players get " ++ player ++ " " ++ objective

end Sync

namespace Host

/-- The score that has been asked for and told. -/
def Exchange.fetched? (x : Exchange) : Option Fetched :=
  match x.commands with
  | [.getScore player objective] => (Reply.score? x.reply).map fun value => ⟨player, objective, value⟩
  | _ => none

/-- Whether a turn is one of a full synchronisation of players, in the objectives that were registered when the
list of players came, that has asked for some scores and taken the replies. -/
def Reads (i : Nat) (past : List Taken) (n : Nat) (players objectives : List String) (read : List Exchange) :
    Prop :=
  ∃ origin begun x s, Dialogue i past origin .sync begun n (x :: read) ∧ Reply.players? x.reply = some players ∧
    turnAt? past x.taken = some s ∧ s.host.registry i = objectives

/-- Full synchronisations of an engine send what they should, and enter it at once. -/
structure SyncedAtOnce (i : Nat) (past : List Taken) (h : Host) : Prop where
  /-- The first command is that for the players. -/
  begins : ∀ s ∈ past, ∀ origin, s.turn = .begin origin (.operate i .sync) → (s.host.engines[i]?).isSome →
    s.sent i = ["scoreboard players list"] ∧ ∀ j, (s.host.perform s.turn).cache j = s.host.cache j
  /-- Commands are sent one at a time: the turn that takes the reply to one sends the next. The reply is what the
  console answers when the command goes out. -/
  exchanges : ∀ origin begun n xs, Dialogue i past origin .sync begun n xs →
    (∀ x ∈ xs.head?, x.text = "scoreboard players list") ∧ xs.IsChain (fun x y => x.taken = y.asked) ∧
      ∀ x ∈ xs, x.asked < x.taken ∧ ∃ s, turnAt? past x.asked = some s ∧ s.sent i = [x.text] ∧
        x.reply = s.host.console.respond x.text
  /-- With a list that is not understood it is over, and answers with the cache as it is then. -/
  unread : ∀ origin begun n x read s, Dialogue i past origin .sync begun n (x :: read) →
    turnAt? past n = some s → Reply.players? x.reply = none →
      read = [] ∧ s.sent i = [] ∧ (∀ j, (s.host.perform s.turn).cache j = s.host.cache j) ∧
        s.answer? i = some (.scores (s.host.cache i))
  /-- Else it asks for the scores, player after player, and the turn that takes a reply sends the next command. -/
  asks : ∀ n players objectives read s, Reads i past n players objectives read → turnAt? past n = some s →
    read.map Exchange.text = (Sync.script players objectives).take read.length ∧
      s.sent i = (Sync.script players objectives)[read.length]?.toList
  /-- Until the last reply nothing is entered, and nobody answered. -/
  waits : ∀ n players objectives read s, Reads i past n players objectives read → turnAt? past n = some s →
    read.length < (Sync.script players objectives).length →
      (∀ j, (s.host.perform s.turn).cache j = s.host.cache j) ∧ s.answer? i = none
  /-- With the last reply every player listed is known and has the scores that were told, the last one of each
  kind; all else is as it was. The answer is the whole cache. -/
  publishes : ∀ n players objectives read s, Reads i past n players objectives read → turnAt? past n = some s →
    read.length = (Sync.script players objectives).length →
      (∀ player, ((s.host.perform s.turn).cache i).knows player =
        (decide (player ∈ players) || (s.host.cache i).knows player)) ∧
      (∀ player objective, ((s.host.perform s.turn).cache i).value? player objective =
        (lastValue? (read.filterMap Exchange.fetched?).reverse player objective).or
          ((s.host.cache i).value? player objective)) ∧
      (∀ j, j ≠ i → (s.host.perform s.turn).cache j = s.host.cache j) ∧
        s.answer? i = some (.scores ((s.host.perform s.turn).cache i))
  /-- Every command gets one reply, or waits for it. -/
  replied : ((past.filterMap (Taken.turn · |>.awaited?) : List Awaited) : Multiset Awaited) +
    h.agenda.filterMap Turn.awaited? = h.history.filterMap Event.awaited?
  /-- So a synchronisation that has sent a command waits for the reply, or has gone on with it. -/
  goesOn : ∀ origin begun n xs s, Dialogue i past origin .sync begun n xs → turnAt? past n = some s →
    ∀ text ∈ s.sent i, (∃ stage, .resume origin i stage (s.host.console.respond text) ∈ h.agenda) ∨
      ∃ k x, Dialogue i past origin .sync begun k (xs ++ [x]) ∧ x.text = text

end Host

namespace Sync

open Host

/-- A synchronisation that has read some of the scores. -/
def reached (players objectives : List String) (read : List Exchange) : Sync where
  players := players
  objectives := objectives
  fetched := (read.filterMap Exchange.fetched?).reverse
  left := (create players objectives).left.drop read.length

variable {players objectives : List String} {read : List Exchange} {x : Exchange} {player objective : String}

/-- The script asks for each pair that a new synchronisation has to read, one command a pair. -/
theorem script_eq (players objectives : List String) : script players objectives =
    (create players objectives).left.map fun pair => Command.batch [.getScore pair.1 pair.2] := by
  simp [script, create, List.map_flatMap, Command.text_getScore, Function.comp_def]

/-- A reply to the next pair of the script takes the synchronisation to where it has one exchange more, whether the
reply tells of a score or not. -/
theorem take_reached {left : List (String × String)}
    (hleft : (reached players objectives read).left = (player, objective) :: left)
    (hx : x.commands = [.getScore player objective]) :
    (reached players objectives read).take x.reply = reached players objectives (read ++ [x]) := by
  have hfetched : x.fetched? = (Reply.score? x.reply).map fun value => ⟨player, objective, value⟩ := by
    rw [Exchange.fetched?, hx]
  have hrest : (create players objectives).left.drop (read.length + 1) = left := by
    rw [← List.drop_drop, show (create players objectives).left.drop read.length = _ from hleft]
    rfl
  unfold take
  rw [hleft]
  cases hscore : Reply.score? x.reply with
  | none => simp [reached, hfetched, hscore, hrest]
  | some value => simp [reached, hfetched, hscore, hrest]

/-- If only scores of players listed have been read, these are known afterwards, and who was known before. -/
theorem knows_publish_of_listed {sync : Sync} (listed : ∀ f ∈ sync.fetched, f.player ∈ sync.players)
    (scores : Scores) (player : String) :
    (sync.publish scores).knows player = (decide (player ∈ sync.players) || scores.knows player) := by
  rw [knows_publish]
  by_cases hmem : player ∈ sync.players
  · simp [hmem]
  · have hnone : sync.fetched.any (·.player = player) = false := by
      rw [List.any_eq_false]
      rintro f hf heq
      exact hmem (of_decide_eq_true heq ▸ listed f hf)
    rw [hnone, Bool.false_or]

end Sync

namespace Engine

variable {e : Engine} {commands : List Command} {stage : Stage}

/-- A synchronisation begins with asking for the players. -/
theorem Opens.sync_inv {draws : Draws} (opens : e.Opens draws .sync commands stage) :
    commands = [.listPlayers] ∧ stage = .listingPlayers := by
  cases opens with
  | sync => exact ⟨rfl, rfl⟩

end Engine

namespace Host

section

variable {latency : Nat} {rules : List Rule} {draws : Draws} {config : Config} {h : Host} {past : List Taken}
  {s : Taken} {i n : Nat} {origin : Origin} {begun : Nat} {read : List Exchange} {x : Exchange}
  {players objectives : List String}

/-- Where a full synchronisation stands that has taken a reply: the list of players is not understood, or what the
turn goes on with is what has been read. -/
theorem Dialogue.sync_cases (trace : Trace (start latency rules draws config) past h)
    (dialogue : Dialogue i past origin .sync begun n (x :: read)) (here : turnAt? past n = some s) :
    x.commands = [.listPlayers] ∧ ∃ e, s.host.engines[i]? = some e ∧
      (Reply.players? x.reply = none ∧ read = [] ∧ s.stretch? = some (origin, i, e.resumeSync x.reply) ∨
        ∃ players listed, Reply.players? x.reply = some players ∧ turnAt? past x.taken = some listed ∧
          s.stretch? = some (origin, i, e.continueSync (.reached players (listed.host.registry i) read)) ∧
            read.map Exchange.commands =
              ((Sync.create players (listed.host.registry i)).left.take read.length).map
                fun pair => [.getScore pair.1 pair.2]) := by
  -- the exchanges follow one another: what the last of them left behind is, by the induction, the synchronisation
  -- that this reply is taken to
  induction read using List.reverseRecOn generalizing n s with
  | nil =>
    obtain ⟨e₀, draws, opens⟩ := dialogue.opens
    obtain ⟨hcommands, hstage⟩ := opens.sync_inv
    obtain ⟨e, he, hs⟩ := dialogue.stretch trace List.getLast?_singleton here
    rw [hstage] at hs
    refine ⟨hcommands, e, he, ?_⟩
    cases hplayers : Reply.players? x.reply with
    | none => exact .inl ⟨rfl, rfl, hs⟩
    | some players =>
      have htaken : x.taken = n := dialogue.chain.2.2.1 x rfl
      refine .inr ⟨players, s, rfl, by rw [htaken, here], ?_, rfl⟩
      rw [hs, registry_eq he]
      simp only [Engine.resume, Engine.resumeSync, hplayers]
      rfl
  | append_singleton read y ih =>
    have dialogue : Dialogue i past origin .sync begun n ((x :: read) ++ [y]) := dialogue
    obtain ⟨before, asker, o, hasker, hs₀, hn⟩ := dialogue.asks
    obtain ⟨hcommands, e₀, -, ⟨hnone, -, hs⟩ | ⟨players, listed, hplayers, hlisted, hs, hread⟩⟩ :=
      ih before hasker
    -- a list that is not understood is not followed by commands
    · rw [hs₀] at hs
      cases hs
      simp [Engine.resumeSync, hnone] at hn
    · rw [hs₀] at hs
      cases hs
      obtain ⟨player, objective, left, hleft, hy, hstage⟩ := Engine.continueSync_eq_send_iff.mp hn
      obtain ⟨e, he, hs⟩ := dialogue.stretch trace List.getLast?_concat here
      rw [hstage] at hs
      refine ⟨hcommands, e, he, .inr ⟨players, listed, hplayers, hlisted, ?_, ?_⟩⟩
      · rw [hs, ← Sync.take_reached hleft hy]
        rfl
      · have hnext : (Sync.create players (listed.host.registry i)).left[read.length]? =
            some (player, objective) := by
          rw [← List.head?_drop, show (Sync.create players _).left.drop read.length = _ from hleft]
          rfl
        rw [List.map_append, hread, List.length_append, List.length_singleton, List.take_add_one, hnext,
          List.map_append, List.map_singleton, hy]
        rfl

/-- While a synchronisation reads, its turn goes on with exactly what the exchanges so far make of the snapshot. -/
theorem Reads.stands (trace : Trace (start latency rules draws config) past h)
    (reads : Reads i past n players objectives read) (here : turnAt? past n = some s) :
    ∃ origin e, s.host.engines[i]? = some e ∧
      s.stretch? = some (origin, i, e.continueSync (.reached players objectives read)) ∧
        read.map Exchange.commands = ((Sync.create players objectives).left.take read.length).map
          fun pair => [.getScore pair.1 pair.2] := by
  obtain ⟨origin, begun, x, listed, dialogue, hplayers, hlisted, rfl⟩ := reads
  obtain ⟨-, e, he, ⟨hnone, -⟩ | ⟨players', listed', hplayers', hlisted', hs, hread⟩⟩ :=
    dialogue.sync_cases trace here
  · rw [hplayers] at hnone
    cases hnone
  · rw [hplayers] at hplayers'
    cases hplayers'
    rw [hlisted] at hlisted'
    cases hlisted'
    exact ⟨origin, e, he, hs, hread⟩

/-- The commands sent so far are a beginning of the script, and the turn sends the next one, if any is left. -/
theorem Reads.asks (trace : Trace (start latency rules draws config) past h)
    (reads : Reads i past n players objectives read) (here : turnAt? past n = some s) :
    read.map Exchange.text = (Sync.script players objectives).take read.length ∧
      s.sent i = (Sync.script players objectives)[read.length]?.toList := by
  obtain ⟨origin, e, he, hs, hread⟩ := reads.stands trace here
  constructor
  · have htexts := congrArg (List.map Command.batch) hread
    rw [List.map_map, List.map_map] at htexts
    rw [Sync.script_eq, ← List.map_take]
    exact htexts
  -- the next command of the script is the first of the pairs that are left
  · have hnext : (Sync.script players objectives)[read.length]? =
        (Sync.reached players objectives read).left.head?.map fun pair =>
          Command.batch [.getScore pair.1 pair.2] := by
      rw [Sync.script_eq, List.getElem?_map, ← List.head?_drop]
      rfl
    rw [sent_of_stretch hs, if_pos rfl, hnext]
    obtain ⟨player, objective, left, hleft, hn, -⟩ | ⟨hleft, hn, -⟩ :=
      e.continueSync_cases (.reached players objectives read)
    · rw [hn, hleft]
      rfl
    · rw [hn, hleft]
      rfl

theorem length_script (players objectives : List String) :
    (Sync.script players objectives).length = (Sync.create players objectives).left.length := by
  rw [Sync.script_eq, List.length_map]

/-- As long as a pair is left to read, no cache changes and no answer is given. -/
theorem Reads.waits (trace : Trace (start latency rules draws config) past h)
    (reads : Reads i past n players objectives read) (here : turnAt? past n = some s)
    (more : read.length < (Sync.script players objectives).length) :
    (∀ j, (s.host.perform s.turn).cache j = s.host.cache j) ∧ s.answer? i = none := by
  obtain ⟨origin, e, he, hs, -⟩ := reads.stands trace here
  obtain ⟨player, objective, left, -, hn, hsame⟩ | ⟨hleft, -, -⟩ :=
    e.continueSync_cases (.reached players objectives read)
  · refine ⟨cache_perform_of_same he hs hsame, ?_⟩
    rw [Taken.answer?, hs, Option.bind_some, hn]
  · rw [length_script] at more
    exact absurd (List.drop_eq_nil_iff.mp hleft) (Nat.not_le_of_lt more)

/-- With the last reply everything read is entered at once: all listed players are known, each score read is the one
held, and whatever was not read stays. -/
theorem Reads.publishes (trace : Trace (start latency rules draws config) past h)
    (reads : Reads i past n players objectives read) (here : turnAt? past n = some s)
    (last : read.length = (Sync.script players objectives).length) :
    (∀ player, ((s.host.perform s.turn).cache i).knows player =
      (decide (player ∈ players) || (s.host.cache i).knows player)) ∧
    (∀ player objective, ((s.host.perform s.turn).cache i).value? player objective =
      (lastValue? (read.filterMap Exchange.fetched?).reverse player objective).or
        ((s.host.cache i).value? player objective)) ∧
    (∀ j, j ≠ i → (s.host.perform s.turn).cache j = s.host.cache j) ∧
      s.answer? i = some (.scores ((s.host.perform s.turn).cache i)) := by
  obtain ⟨origin, e, he, hs, hread⟩ := reads.stands trace here
  rw [length_script] at last
  -- a score that has been read is that of a player listed
  have hlisted : ∀ f ∈ (Sync.reached players objectives read).fetched, f.player ∈ players := by
    intro f hf
    obtain ⟨y, hy, hfetched⟩ := List.mem_filterMap.mp (List.mem_reverse.mp hf)
    have hcommands := List.mem_map_of_mem (f := Exchange.commands) hy
    rw [hread] at hcommands
    obtain ⟨pair, hpair, hcommands⟩ := List.mem_map.mp hcommands
    rw [Exchange.fetched?, ← hcommands] at hfetched
    obtain ⟨value, -, rfl⟩ := Option.map_eq_some_iff.mp hfetched
    obtain ⟨player, hplayer, hpair⟩ := List.mem_flatMap.mp (List.mem_of_mem_take hpair)
    obtain ⟨objective, -, rfl⟩ := List.mem_map.mp hpair
    exact hplayer
  -- nothing is left to read, so the synchronisation ends here
  obtain ⟨player, objective, left, hleft, -, -⟩ | ⟨-, hn, hpublished⟩ :=
    e.continueSync_cases (.reached players objectives read)
  · have hdone : (Sync.reached players objectives read).left = [] :=
      List.drop_eq_nil_iff.mpr (Nat.le_of_eq last.symm)
    rw [hdone] at hleft
    cases hleft
  · have hafter : (s.host.perform s.turn).cache i =
        (Sync.reached players objectives read).publish (s.host.cache i) := by
      rw [cache_perform_of_stretch hs, if_pos rfl, hpublished, cache_eq he]
    refine ⟨fun player => ?_, fun player objective => ?_, fun j hj => ?_, ?_⟩
    · rw [hafter, Sync.knows_publish_of_listed hlisted]
      rfl
    · rw [hafter, Sync.value?_publish]
      rfl
    · rw [cache_perform_of_stretch hs, if_neg hj]
    · rw [Taken.answer?, hs, Option.bind_some, hn, hafter, cache_eq he]
      exact if_pos rfl

/-- In every trace, full synchronisations send what they should, and enter what they were told at once. -/
theorem syncedAtOnce_of_trace (trace : Trace (start latency rules draws config) past h) (i : Nat) :
    SyncedAtOnce i past h where
  begins s hs origin hturn known := by
    obtain ⟨e, he⟩ := Option.isSome_iff_exists.mp known
    have hstretch : s.stretch? = some (origin, i, (e.begin .sync s.host.draws).1) :=
      stretch?_eq_some_iff.mpr ⟨e, he, .inl ⟨_, hturn, rfl⟩⟩
    refine ⟨?_, cache_perform_of_same he hstretch rfl⟩
    rw [sent_of_stretch hstretch, if_pos rfl]
    rfl
  exchanges origin begun n xs dialogue := by
    obtain ⟨hchain, -, -, hlater⟩ := dialogue.chain
    refine ⟨fun x hx => ?_, hchain, fun x hx => ⟨hlater x hx, dialogue.answered hx⟩⟩
    obtain ⟨read, rfl⟩ := List.head?_eq_some_iff.mp hx
    obtain ⟨s, here⟩ := dialogue.exists_turn
    rw [Exchange.text, (dialogue.sync_cases trace here).1]
    decide
  unread origin begun n x read s dialogue here hnone := by
    obtain ⟨-, e, he, ⟨-, hread, hs⟩ | ⟨players, -, hplayers, -⟩⟩ := dialogue.sync_cases trace here
    -- a list that is not understood ends the synchronisation, with the scores as they are
    · have hresume : e.resumeSync x.reply =
          { engine := e, notes := [.playersUnread x.reply], next := .done (.scores e.scores) } := by
        rw [Engine.resumeSync, hnone]
      rw [hresume] at hs
      obtain ⟨hsent, hanswer⟩ := sent_and_answer?_of_done hs rfl
      rw [← cache_eq he] at hanswer
      exact ⟨hread, hsent, cache_perform_of_same he hs rfl, hanswer⟩
    · rw [hnone] at hplayers
      cases hplayers
  asks n players objectives read s reads here := reads.asks trace here
  waits n players objectives read s reads here more := reads.waits trace here more
  publishes n players objectives read s reads here last := reads.publishes trace here last
  replied := trace.replies
  goesOn origin begun n xs s dialogue here text hmem := trace.dialogue_goesOn dialogue here hmem

end

/-- A run in which the scores of two players are read, where one reply tells of none: its player is known all the
same. -/
theorem syncedAtOnce_of_two_players : ∃ past h,
    Trace (start 10 [.toCommand "scoreboard players list" "There are 2 tracked entities: Alice, Bob",
      .toCommand "scoreboard players get Alice tQaBe_kills" "Alice has 4 [kills]"] {} {}) past h ∧
        SyncedAtOnce 0 past h ∧ (h.cache 0).value? "Alice" "tQaBe_kills" = some 4 ∧
          (h.cache 0).knows "Bob" ∧ (h.cache 0).value? "Bob" "tQaBe_kills" = none ∧
            (.foreground, .scores (h.cache 0)) ∈ h.answers := by
  let rules := [Rule.toCommand "scoreboard players list" "There are 2 tracked entities: Alice, Bob",
    .toCommand "scoreboard players get Alice tQaBe_kills" "Alice has 4 [kills]"]
  let ensure := Request.operate 0 (.ensure ⟨"demo", "demo"⟩ "kills" "dummy" "Kills")
  have run : (((start 10 rules {} {}).drive 50 ensure).bind (drive 50 · (.operate 0 .sync))).map
      (fun h => ((h.cache 0).value? "Alice" "tQaBe_kills", (h.cache 0).knows "Bob",
        (h.cache 0).value? "Bob" "tQaBe_kills",
          decide ((.foreground, .scores (h.cache 0)) ∈ h.answers))) =
      some (some 4, true, none, true) := by decide +kernel
  obtain ⟨h, hdriven, hend⟩ := Option.map_eq_some_iff.mp run
  simp only [Prod.mk.injEq, decide_eq_true_eq] at hend
  obtain ⟨hAlice, hBob, hnone, hanswered⟩ := hend
  obtain ⟨ensured, hensured, hsynced⟩ := Option.bind_eq_some_iff.mp hdriven
  obtain ⟨past, trace⟩ := (steps_of_drive hensured).trans (steps_of_drive hsynced)
  exact ⟨past, h, trace, syncedAtOnce_of_trace trace 0, hAlice, hBob, hnone, hanswered⟩

end Host

end Scoreboard

import Mathlib.Data.List.Chain
import Scoreboard.Proofs.Cache

/-!
# What an operation says and is told

Every batch of commands that goes out gets one reply, or waits for it (`Trace.replies`). A `Dialogue` follows one
operation over its waits: which commands it has sent in which turn, and which turn has taken the reply. It has one
exchange after the other, each of them begun by the turn that has ended the one before (`Dialogue.chain`), with
the reply that the console gave when the commands went out (`Dialogue.answered`). A wait that a turn leaves lasts
until a later turn takes the reply (`Trace.waits_or_goesOn`).
-/

namespace Scoreboard

/-- A reply on its way to an engine: for whom, and what the operation keeps until it is there. -/
structure Awaited where
  engine : Nat
  origin : Origin
  stage : Stage
  reply : String

/-- The reply that a turn takes, with the operation it is for. -/
def Turn.awaited? : Turn → Option Awaited
  | .resume origin i stage reply => some ⟨i, origin, stage, reply⟩
  | _ => none

namespace Event

/-- The wait for a reply that begins when commands go out. -/
def awaited? : Event → Option Awaited
  | .sent i origin stage _ reply => some ⟨i, origin, stage, reply⟩
  | _ => none

/-- The text that has gone out to the console. -/
def text? : Event → Option String
  | .sent _ _ _ commands _ => some (Command.batch commands)
  | _ => none

/-- The text that an engine has sent to the console. -/
def textBy? (i : Nat) : Event → Option String
  | .sent j _ _ commands _ => if j = i then some (Command.batch commands) else none
  | _ => none

end Event

/-- The text that goes out when an operation goes on. -/
def Next.text? : Next → Option String
  | .send commands _ => some (Command.batch commands)
  | _ => none

namespace Host

/-- The texts that an engine sends to the console in a turn. -/
def Taken.sent (i : Nat) (s : Taken) : List String := s.deeds.filterMap (Event.textBy? i)

/-- Whether a turn leaves the registries, the caches and the bound triggers as they are. -/
structure Taken.Keeps (s : Taken) : Prop where
  registry : ∀ i, (s.host.perform s.turn).registry i = s.host.registry i
  cache : ∀ i, (s.host.perform s.turn).cache i = s.host.cache i
  triggers : ∀ i, (s.host.perform s.turn).triggers i = s.host.triggers i

/-- Commands that an operation has sent and the reply that it has taken, with the numbers of both turns. -/
structure Exchange where
  asked : Nat
  stage : Stage
  commands : List Command
  reply : String
  taken : Nat

namespace Exchange

/-- The text that has been sent for an exchange. -/
def text (x : Exchange) : String := Command.batch x.commands

end Exchange

/-- The exchanges of an operation from the turn that has begun it up to another one of its turns, in order. -/
inductive Dialogue (i : Nat) (past : List Taken) (origin : Origin) (operation : Operation) (begun : Nat) :
    Nat → List Exchange → Prop where
  | begins {s : Taken} (here : turnAt? past begun = some s)
      (turn : s.turn = .begin origin (.operate i operation)) :
      Dialogue i past origin operation begun begun []
  | goesOn {m n : Nat} {xs : List Exchange} {s : Taken} {stage : Stage} {commands : List Command}
      {reply : String} (before : Dialogue i past origin operation begun m xs)
      (here : turnAt? past m = some s) (sent : .sent i origin stage commands reply ∈ s.deeds)
      (wait : Wait past m n (.resume origin i stage reply)) :
      Dialogue i past origin operation begun n (xs ++ [⟨m, stage, commands, reply, n⟩])

/-! ### What a turn sends -/

section

variable {s : Taken} {origin : Origin} {i j : Nat} {o : Outcome} {stage : Stage} {commands : List Command}
  {reply : String}

/-- Deeds of a kind that are commands sent are those of the stretch. -/
theorem filterMap_deeds_of_sent {β : Type} (kind : Event → Option β)
    (accepted : ∀ i fire, kind (.accepted i fire) = none)
    (begun : ∀ origin request, kind (.begun origin request) = none)
    (fired : ∀ i callback fire, kind (.fired i callback fire) = none) (s : Taken) :
    s.deeds.filterMap kind =
      (s.stretch?.elim [] fun r => s.host.sends r.1 r.2.1 r.2.2).filterMap kind := by
  have hmark : (mark s.turn).filterMap kind = [] := by
    unfold mark
    split
    · exact List.filterMap_cons_none (begun _ _)
    · exact List.filterMap_cons_none (fired _ _ _)
    · rfl
  rw [filterMap_deeds kind accepted, hmark, List.append_nil]

/-- An engine sends what the stretch of its operation sends. -/
theorem sent_of_stretch (hs : s.stretch? = some (origin, j, o)) (i : Nat) :
    s.sent i = if j = i then o.next.text?.toList else [] := by
  rw [Taken.sent, filterMap_deeds_of_sent (Event.textBy? i) (fun _ _ => rfl) (fun _ _ => rfl)
    (fun _ _ _ => rfl), hs, Option.elim_some, sends]
  cases o.next with
  | send commands stage => by_cases hj : j = i <;> simp [Event.textBy?, Next.text?, hj]
  | done _ | fire _ _ | endless => simp [Next.text?]

/-- A turn that ends an operation sends nothing and answers. -/
theorem sent_and_answer?_of_done {answer : Answer} (hs : s.stretch? = some (origin, i, o))
    (done : o.next = .done answer) : s.sent i = [] ∧ s.answer? i = some answer := by
  constructor
  · rw [sent_of_stretch hs, if_pos rfl, done]
    rfl
  · rw [Taken.answer?, hs, Option.bind_some, done]
    exact if_pos rfl

/-- An engine without a stretch in a turn sends nothing in it. -/
theorem sent_eq_nil (elsewhere : ∀ origin o, s.stretch? ≠ some (origin, i, o)) : s.sent i = [] := by
  rcases hs : s.stretch? with _ | ⟨origin, j, o⟩
  · rw [Taken.sent, filterMap_deeds_of_sent (Event.textBy? i) (fun _ _ => rfl) (fun _ _ => rfl)
      (fun _ _ _ => rfl), hs]
    rfl
  · rw [sent_of_stretch hs, if_neg]
    rintro rfl
    exact elsewhere origin o hs

/-- The reply to the commands that a turn sends is waited for, and nothing else is. -/
theorem filterMap_leaves_awaited? (s : Taken) :
    s.leaves.filterMap Turn.awaited? = s.deeds.filterMap Event.awaited? := by
  have hheard := filterMap_dispatching Turn.awaited? s.host s.turn fun _ => rfl
  have hfollow := filterMap_follow Turn.awaited? (fun _ => rfl) (fun _ _ => rfl) (fun _ => rfl) s.host s.turn
  rw [filterMap_deeds_of_sent Event.awaited? (fun _ _ => rfl) (fun _ _ => rfl) (fun _ _ _ => rfl), Taken.leaves,
    leaves, List.filterMap_append, List.filterMap_append, hheard, hfollow, List.nil_append, List.append_nil]
  show (s.stretch?.elim [] fun r => s.host.handsOn r.1 r.2.1 r.2.2).filterMap Turn.awaited? = _
  rcases s.stretch? with _ | ⟨origin, j, o⟩
  · rfl
  · simp only [Option.elim_some, handsOn, sends]
    cases o.next <;> rfl

/-- After a stretch an engine has the scores that the stretch leaves it, and the others have theirs. -/
theorem cache_perform_of_stretch (hs : s.stretch? = some (origin, i, o)) (j : Nat) :
    (s.host.perform s.turn).cache j = if j = i then o.engine.scores else s.host.cache j := by
  rw [cache_eq_memory?, memory?_perform_of_stretch hs]
  split
  · rfl
  · rw [cache_eq_memory?]

/-- A stretch that leaves the scores of its engine leaves all caches. -/
theorem cache_perform_of_same {e : Engine} (he : s.host.engines[i]? = some e)
    (hs : s.stretch? = some (origin, i, o)) (same : o.engine.scores = e.scores) (j : Nat) :
    (s.host.perform s.turn).cache j = s.host.cache j := by
  rw [cache_perform_of_stretch hs]
  split
  · rename_i hj
    rw [hj, same, cache_eq he]
  · rfl

/-- A stretch that leaves an engine but for its counters leaves what all engines have registered, read and
bound. -/
theorem keeps_of_stats {e : Engine} {stats : Stats} (he : s.host.engines[i]? = some e)
    (hs : s.stretch? = some (origin, i, o)) (same : o.engine = { e with stats }) : s.Keeps := by
  refine ⟨fun j => ?_, cache_perform_of_same he hs (by rw [same]), fun j => ?_⟩
  · rw [registry_eq_memory?, memory?_perform_of_stretch hs]
    split
    · rename_i hj
      rw [hj, same, registry_eq he]
      rfl
    · rw [registry_eq_memory?]
  · rw [triggers_eq_memory?, memory?_perform_of_stretch hs]
    split
    · rename_i hj
      rw [hj, same, triggers_eq he]
      rfl
    · rw [triggers_eq_memory?]

end

/-! ### Exchanges in order -/

section

variable {i : Nat} {past : List Taken} {origin : Origin} {operation : Operation} {begun n : Nat}
  {xs : List Exchange} {x : Exchange}

/-- A dialogue without exchanges stands at the turn that begins the operation. -/
theorem Dialogue.begins_inv (dialogue : Dialogue i past origin operation begun n []) :
    n = begun ∧ ∃ s, turnAt? past begun = some s ∧ s.turn = .begin origin (.operate i operation) := by
  generalize hxs : [] = xs at dialogue
  cases dialogue with
  | begins here turn => exact ⟨rfl, _, here, turn⟩
  | goesOn _ _ _ _ => simp at hxs

/-- The last exchange of a dialogue, and the dialogue before it. -/
theorem Dialogue.goesOn_inv (dialogue : Dialogue i past origin operation begun n (xs ++ [x])) :
    x.taken = n ∧ Dialogue i past origin operation begun x.asked xs ∧
      (∃ s, turnAt? past x.asked = some s ∧ .sent i origin x.stage x.commands x.reply ∈ s.deeds) ∧
        Wait past x.asked n (.resume origin i x.stage x.reply) := by
  generalize hxs : xs ++ [x] = all at dialogue
  cases dialogue with
  | begins _ _ => simp at hxs
  | goesOn before here sent wait =>
    obtain ⟨rfl, hx⟩ := List.append_inj' hxs rfl
    obtain rfl := List.singleton_inj.mp hx
    exact ⟨rfl, before, ⟨_, here, sent⟩, wait⟩

/-- The turn at which a dialogue with an exchange has arrived takes the reply of this exchange. -/
theorem Dialogue.resumes (dialogue : Dialogue i past origin operation begun n (xs ++ [x])) :
    ∃ s, turnAt? past n = some s ∧ s.turn = .resume origin i x.stage x.reply :=
  dialogue.goesOn_inv.2.2.2.taken

/-- The commands of an exchange have gone out when the turn went on that is at the end of the dialogue before. -/
theorem Dialogue.asks (dialogue : Dialogue i past origin operation begun n (xs ++ [x])) :
    Dialogue i past origin operation begun x.asked xs ∧ ∃ s o, turnAt? past x.asked = some s ∧
      s.stretch? = some (origin, i, o) ∧ o.next = .send x.commands x.stage := by
  obtain ⟨-, before, ⟨s, here, sent⟩, -⟩ := dialogue.goesOn_inv
  obtain ⟨o, hs, hn, -⟩ := sent_mem_deeds.mp sent
  exact ⟨before, s, o, here, hs, hn⟩

/-- The first commands of a dialogue are those that the operation opens with. -/
theorem Dialogue.opens (dialogue : Dialogue i past origin operation begun n [x]) :
    ∃ e draws, Engine.Opens e draws operation x.commands x.stage := by
  have dialogue : Dialogue i past origin operation begun n ([] ++ [x]) := dialogue
  obtain ⟨before, s, o, here, hs, hn⟩ := dialogue.asks
  obtain ⟨hbegun, s', here', hbegin⟩ := before.begins_inv
  rw [← hbegun, here] at here'
  cases here'
  obtain ⟨e, -, ⟨operation', hturn, rfl⟩ | ⟨stage, reply, hturn, -⟩⟩ := stretch?_eq_some_iff.mp hs
  · rw [hbegin] at hturn
    cases hturn
    exact ⟨e, s.host.draws, Engine.begin_eq_send_iff.mp hn⟩
  · rw [hbegin] at hturn
    cases hturn

/-- A turn of a dialogue begins the operation or takes a reply for it. -/
theorem Dialogue.turn_cases (dialogue : Dialogue i past origin operation begun n xs) {s : Taken}
    (here : turnAt? past n = some s) : s.turn = .begin origin (.operate i operation) ∨
      ∃ stage reply, s.turn = .resume origin i stage reply := by
  cases dialogue with
  | begins here' turn =>
    rw [here] at here'
    cases here'
    exact .inl turn
  | goesOn _ _ _ wait =>
    obtain ⟨s', here', turn⟩ := wait.taken
    rw [here] at here'
    cases here'
    exact .inr ⟨_, _, turn⟩

/-- A dialogue stands at a turn that has been taken. -/
theorem Dialogue.exists_turn (dialogue : Dialogue i past origin operation begun n xs) :
    ∃ s, turnAt? past n = some s := by
  cases dialogue with
  | begins here _ => exact ⟨_, here⟩
  | goesOn _ _ _ wait =>
    obtain ⟨s, here, -⟩ := wait.taken
    exact ⟨s, here⟩

/-- What a turn of a dialogue sends goes out for the same operation. -/
theorem Dialogue.sent_of_mem (dialogue : Dialogue i past origin operation begun n xs) {s : Taken}
    (here : turnAt? past n = some s) {text : String} (hmem : text ∈ s.sent i) :
    ∃ stage commands reply, .sent i origin stage commands reply ∈ s.deeds ∧ Command.batch commands = text := by
  obtain ⟨event, hevent, htext⟩ := List.mem_filterMap.mp hmem
  cases event with
  | sent j origin' stage commands reply =>
    simp only [Event.textBy?, Option.ite_none_right_eq_some, Option.some.injEq] at htext
    obtain ⟨rfl, htext⟩ := htext
    obtain ⟨o, hs, -, -⟩ := sent_mem_deeds.mp hevent
    -- what the engine sends in this turn is sent by the dialogue's own operation
    obtain ⟨e, -, ⟨operation', hturn, -⟩ | ⟨stage', reply', hturn, -⟩⟩ := stretch?_eq_some_iff.mp hs
    · obtain hbegin | ⟨_, _, hresume⟩ := dialogue.turn_cases here
      · rw [hturn] at hbegin
        cases hbegin
        exact ⟨stage, commands, reply, hevent, htext⟩
      · rw [hturn] at hresume
        cases hresume
    · obtain hbegin | ⟨_, _, hresume⟩ := dialogue.turn_cases here
      · rw [hturn] at hbegin
        cases hbegin
      · rw [hturn] at hresume
        cases hresume
        exact ⟨stage, commands, reply, hevent, htext⟩
  | _ => cases htext

/-- An operation has one exchange after the other: a turn that takes a reply sends the next commands. -/
theorem Dialogue.chain (dialogue : Dialogue i past origin operation begun n xs) :
    xs.IsChain (fun x y => x.taken = y.asked) ∧ (∀ x ∈ xs.head?, x.asked = begun) ∧
      (∀ x ∈ xs.getLast?, x.taken = n) ∧ ∀ x ∈ xs, x.asked < x.taken := by
  -- each exchange is asked in the turn that took the reply to the one before it
  induction dialogue with
  | begins _ _ => simp
  | @goesOn m n xs s stage commands reply before here sent wait ih =>
    obtain ⟨hchain, hfirst, hlast, hlater⟩ := ih
    refine ⟨?_, ?_, by simp, ?_⟩
    · rw [List.isChain_append]
      exact ⟨hchain, by simp, fun x hx y hy => by cases hy; exact hlast x hx⟩
    · cases xs with
      | nil =>
        obtain ⟨rfl, -⟩ := before.begins_inv
        simp
      | cons first xs => exact hfirst
    · rw [List.forall_mem_append]
      refine ⟨hlater, fun x hx => ?_⟩
      rw [List.mem_singleton.mp hx]
      exact wait.later

/-- The reply is what the console answers when the commands go out, whatever it answers later. -/
theorem Dialogue.answered (dialogue : Dialogue i past origin operation begun n xs) (hx : x ∈ xs) :
    ∃ s, turnAt? past x.asked = some s ∧ s.sent i = [x.text] ∧
      x.reply = s.host.console.respond x.text := by
  induction dialogue with
  | begins _ _ => cases hx
  | @goesOn m n xs s stage commands reply before here sent wait ih =>
    obtain hx | hx := List.mem_append.mp hx
    · exact ih hx
    · obtain rfl := List.mem_singleton.mp hx
      obtain ⟨o, hs, hn, hreply⟩ := sent_mem_deeds.mp sent
      refine ⟨s, here, ?_, hreply⟩
      rw [sent_of_stretch hs, if_pos rfl, hn]
      rfl

end

/-! ### A whole trace -/

section

variable {latency : Nat} {rules : List Rule} {draws : Draws} {config : Config} {h : Host} {past : List Taken}
  {s : Taken} {i n : Nat} {origin : Origin} {operation : Operation} {begun : Nat} {xs : List Exchange}
  {x : Exchange} {t : Turn}

/-- Commands that have gone out get one reply, or wait for it. -/
theorem Trace.replies (trace : Trace (start latency rules draws config) past h) :
    ((past.filterMap (Taken.turn · |>.awaited?) : List Awaited) : Multiset Awaited) +
      h.agenda.filterMap Turn.awaited? = h.history.filterMap Event.awaited? := by
  have left : Left Turn.awaited? := ⟨fun _ => rfl, fun _ => rfl⟩
  have hc := trace.conservation_of_start left
  rw [List.filterMap_flatMap] at hc
  simp only [filterMap_leaves_awaited?] at hc
  rw [hc, trace.history_of_start, List.filterMap_flatMap]

/-- Work that a turn leaves waits until a later turn does it. -/
theorem Trace.waits_or_goesOn (trace : Trace (start latency rules draws config) past h)
    (here : turnAt? past n = some s) (left : t ∈ s.leaves) :
    t ∈ h.agenda ∨ ∃ k, Wait past n k t := by
  -- as long as it waits, it is part of the agenda of each turn that is taken
  suffices hwaits : (t ∈ h.agenda ∧ ∀ k s', n < k → turnAt? past k = some s' → t ∈ s'.host.agenda) ∨
      ∃ k, Wait past n k t from hwaits.imp_left And.left
  induction trace with
  | refl => cases here
  | @tail past h h' taken trace step ih =>
    cases taken with
    | none =>
      obtain ⟨hmem, hbetween⟩ | hwait := ih here
      · refine .inl ⟨?_, hbetween⟩
        obtain hagenda | ⟨request, hagenda⟩ := step.of_none.2.2
        · rwa [hagenda]
        · rw [hagenda]
          exact Multiset.mem_cons_of_mem hmem
      · exact .inr hwait
    | some last =>
      obtain ⟨rfl, -, -, hagenda⟩ := step.of_some
      rw [Option.toList_some, List.singleton_append] at here ⊢
      have hadds := agenda_perform last.host last.turn
      obtain ⟨hlt, hbefore⟩ | ⟨rfl, rfl⟩ := turnAt?_cons_cases here
      · obtain ⟨hmem, hbetween⟩ | ⟨k, wait⟩ := ih hbefore
        · rw [hagenda, Multiset.mem_add] at hmem
          obtain htaken | hmem := hmem
          -- the turn that is taken is the one that was waited for
          · right
            have hturn : last.turn = t := by
              have := (List.mem_filter.mp (Multiset.mem_coe.mp htaken)).1
              exact (List.mem_singleton.mp this).symm
            refine ⟨past.length, ⟨s, turnAt?_append hbefore [last], left⟩,
              ⟨last, turnAt?_length last past, hturn⟩, hlt, fun k s' hlater hk hs' => ?_⟩
            rw [← List.singleton_append, turnAt?_append_of_lt [last] hk] at hs'
            exact hbetween k s' hlater hs'
          · left
            refine ⟨?_, fun k s' hlater hs' => ?_⟩
            · rw [hadds]
              exact Multiset.mem_add.mpr (.inr hmem)
            · obtain ⟨-, hs'⟩ | ⟨-, rfl⟩ := turnAt?_cons_cases hs'
              · exact hbetween k s' hlater hs'
              · exact hmem
        · exact .inr ⟨k, wait.append [last]⟩
      -- the turn that leaves it is the last one so far
      · left
        refine ⟨?_, fun k s' hlater hs' => ?_⟩
        · rw [hadds]
          exact Multiset.mem_add.mpr (.inl (Multiset.mem_coe.mpr left))
        · have hk := lt_of_turnAt? hs'
          rw [List.length_cons] at hk
          omega

/-- An operation that has sent commands waits for the reply that the console has given, or has taken it. -/
theorem Trace.dialogue_goesOn (trace : Trace (start latency rules draws config) past h)
    (dialogue : Dialogue i past origin operation begun n xs) (here : turnAt? past n = some s) {text : String}
    (hmem : text ∈ s.sent i) :
    (∃ stage, .resume origin i stage (s.host.console.respond text) ∈ h.agenda) ∨
      ∃ k x, Dialogue i past origin operation begun k (xs ++ [x]) ∧ x.text = text := by
  obtain ⟨stage, commands, reply, sent, rfl⟩ := dialogue.sent_of_mem here hmem
  obtain ⟨o, hs, hn, rfl⟩ := sent_mem_deeds.mp sent
  have hleft : .resume origin i stage (s.host.console.respond (Command.batch commands)) ∈ s.leaves :=
    resume_mem_leaves.mpr ⟨o, commands, hs, hn, rfl⟩
  obtain hwaits | ⟨k, wait⟩ := trace.waits_or_goesOn here hleft
  · exact .inl ⟨stage, hwaits⟩
  · exact .inr ⟨k, _, dialogue.goesOn here sent wait, rfl⟩

/-- A reply that is taken finds its engine. -/
theorem Trace.engine_of_resume (trace : Trace (start latency rules draws config) past h)
    (here : turnAt? past n = some s) {stage : Stage} {reply : String}
    (hturn : s.turn = .resume origin i stage reply) :
    ∃ e, s.host.engines[i]? = some e ∧ s.stretch? = some (origin, i, e.resume stage reply) := by
  obtain ⟨e, he⟩ := exists_of_memory? (trace.asked_of_mem (mem_of_turnAt? here) hturn).1
  exact ⟨e, he, stretch?_eq_some_iff.mpr ⟨e, he, .inr ⟨_, _, hturn, rfl⟩⟩⟩

/-- The turn that takes the last reply of a dialogue goes on with the engine as it finds it. -/
theorem Dialogue.stretch (trace : Trace (start latency rules draws config) past h)
    (dialogue : Dialogue i past origin operation begun n xs) (last : xs.getLast? = some x)
    (here : turnAt? past n = some s) :
    ∃ e, s.host.engines[i]? = some e ∧ s.stretch? = some (origin, i, e.resume x.stage x.reply) := by
  obtain ⟨before, rfl⟩ := List.getLast?_eq_some_iff.mp last
  obtain ⟨s', here', hturn⟩ := dialogue.resumes
  rw [here] at here'
  cases here'
  exact trace.engine_of_resume here hturn

end

end Host

end Scoreboard

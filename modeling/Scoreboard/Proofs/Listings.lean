import Scoreboard.Proofs.Host.Dialogues
import Scoreboard.Proofs.Removals

/-!
# A cleanup of what a listing names

A server lists its objectives behind a colon, each name in brackets. Such a listing is read back name by name
(`Reply.objectives?_listing`), whatever colons, brackets and spaces the names have inside. Main statement
(`removedExactly_of_trace`): in every trace, a cleanup that is told a listing removes the generated names in it
that are not bound, each with a line of its own and in the order of the listing, answers with their number, and
leaves all that the engines keep (`RemovedExactly`).

A comma and a space stand between two items, so every item but for the comma begins with a space, and so does the
first one, which stands behind the colon (`Text.splitOn_intercalate`). What a cleanup does is read off its turns:
it takes the listing, and then the reply to what it has removed, if anything (`Dialogue.cleanup_cases`).
-/

namespace Scoreboard

namespace Reply

/-- Whether a name can be told from what stands around it in a listing. -/
structure IsPlain (name : String) : Prop where
  nonempty : name.toList ≠ []
  comma : ',' ∉ name.toList
  unbroken : '\n' ∉ name.toList
  first : ∀ c ∈ name.toList.head?, ¬Text.isBlank c ∧ ¬isBracket c
  last : ∀ c ∈ name.toList.getLast?, ¬Text.isBlank c ∧ ¬isBracket c

/-- What a server writes that lists objectives. -/
def listing (header : String) (names : List String) : String :=
  header ++ ": " ++ ", ".intercalate (names.map fun name => "[" ++ name ++ "]")

end Reply

namespace Host

/-- The names of generated triggers that an engine has not bound. -/
def leftOver (h : Host) (i : Nat) (names : List String) : List String :=
  names.filter fun name => Trigger.isGenerated name && (h.bound? i name).isNone

/-- Cleanups of an engine that are told a listing remove what they should. -/
structure RemovedExactly (i : Nat) (past : List Taken) (h : Host) : Prop where
  /-- A listing is read back name by name. -/
  reads : ∀ header names, ':' ∉ header.toList → (∀ name ∈ names, Reply.IsPlain name) →
    Reply.objectives? (Reply.listing header names) = some names
  /-- A cleanup begins with the command that asks for the listing. -/
  begins : ∀ s ∈ past, ∀ origin, s.turn = .begin origin (.operate i .removeStale) →
    (s.host.engines[i]?).isSome → s.sent i = ["scoreboard objectives list"] ∧ s.Keeps
  /-- It takes the reply to it, which is what the console answers then. -/
  asked : ∀ origin begun n x xs, Dialogue i past origin .removeStale begun n (x :: xs) →
    x.text = "scoreboard objectives list" ∧ x.asked = begun ∧ ∃ s, turnAt? past begun = some s ∧
      x.reply = s.host.console.respond x.text
  /-- When the listing comes, one batch goes out that has a line for each name to be removed, in order; if there
  is none, nothing goes out, and the cleanup is over. -/
  removes : ∀ origin begun n x s header names, Dialogue i past origin .removeStale begun n [x] →
    turnAt? past n = some s → ':' ∉ header.toList → (∀ name ∈ names, Reply.IsPlain name) →
      x.reply = Reply.listing header names →
        s.host.leftOver i names = [] ∧ s.sent i = [] ∧ s.answer? i = some (.count 0) ∨
          s.host.leftOver i names ≠ [] ∧ s.answer? i = none ∧ ∃ batch, s.sent i = [batch] ∧
            Command.lines batch = (s.host.leftOver i names).map ("scoreboard objectives remove " ++ ·)
  /-- When the reply to the batch comes, the cleanup is over, and answers with the number of names removed. -/
  answers : ∀ origin begun n x y s listed header names, Dialogue i past origin .removeStale begun n [x, y] →
    turnAt? past n = some s → turnAt? past x.taken = some listed → ':' ∉ header.toList →
      (∀ name ∈ names, Reply.IsPlain name) → x.reply = Reply.listing header names →
        s.sent i = [] ∧ s.answer? i = some (.count (listed.host.leftOver i names).length)
  /-- A reply without a colon is no listing: nothing goes out, and nothing has been removed. -/
  unread : ∀ origin begun n x xs s, Dialogue i past origin .removeStale begun n (x :: xs) →
    turnAt? past n = some s → ':' ∉ x.reply.toList →
      xs = [] ∧ s.sent i = [] ∧ s.answer? i = some (.count 0)
  /-- There are no exchanges but these two, and none of the turns changes what an engine keeps. -/
  keeps : ∀ origin begun n x xs s, Dialogue i past origin .removeStale begun n (x :: xs) →
    turnAt? past n = some s → xs.length ≤ 1 ∧ s.Keeps
  /-- A cleanup that has sent a batch waits for the reply, or has gone on with it. -/
  goesOn : ∀ origin begun n xs s, Dialogue i past origin .removeStale begun n xs → turnAt? past n = some s →
    ∀ text ∈ s.sent i, (∃ stage, .resume origin i stage (s.host.console.respond text) ∈ h.agenda) ∨
      ∃ k x, Dialogue i past origin .removeStale begun k (xs ++ [x]) ∧ x.text = text

end Host

/-! ### Reading a listing -/

namespace Reply

/-- A name in brackets. -/
def bracketed (name : String) : List Char := '[' :: name.toList ++ [']']

/-- A plain name in brackets, with the blank before it, is read as the name. -/
theorem strip_bracketed {name : String} (plain : IsPlain name) :
    Text.strip isBracket (Text.trim (' ' :: bracketed name)) = name.toList := by
  have hlast : (bracketed name).getLast? = some ']' := List.getLast?_concat
  have outer : Text.Stripped Text.isBlank (' ' :: bracketed name) (bracketed name) := by
    have hpadding : ∀ c ∈ [' '], Text.isBlank c := List.forall_mem_singleton.mpr (by decide)
    refine ⟨⟨[' '], [], by simp, hpadding, by simp⟩, fun c hc => ?_, fun c hc => ?_⟩
    · cases hc
      decide
    · rw [hlast] at hc
      cases hc
      decide
  have hopens : ∀ c ∈ ['['], isBracket c := List.forall_mem_singleton.mpr (by decide)
  have hcloses : ∀ c ∈ [']'], isBracket c := List.forall_mem_singleton.mpr (by decide)
  have inner : Text.Stripped isBracket (bracketed name) name.toList :=
    ⟨⟨['['], [']'], rfl, hopens, hcloses⟩, fun c hc => (plain.first c hc).2, fun c hc => (plain.last c hc).2⟩
  rw [Text.trim, outer.strip_eq (List.cons_ne_nil _ _), inner.strip_eq plain.nonempty]

/-- A listing is its header, a colon, and the bracketed names with commas between them. -/
theorem toList_listing (header : String) (names : List String) :
    (listing header names).toList =
      header.toList ++ ':' :: ' ' :: [',', ' '].intercalate (names.map bracketed) := by
  have hnames : (names.map fun name => "[" ++ name ++ "]").map String.toList = names.map bracketed := by
    rw [List.map_map]
    exact List.map_congr_left fun name _ => by simp [bracketed]
  rw [listing, String.toList_append, String.toList_append, String.toList_intercalate, hnames]
  simp

/-- Items that are written with a comma and a space between them are read back, if each of them can be made clean
of the way in which it is written. -/
theorem items_intercalate {clean : List Char → List Char} {write : String → List Char} {names : List String}
    (blank : clean [' '] = []) (free : ∀ name ∈ names, ',' ∉ write name)
    (cleans : ∀ name ∈ names, clean (' ' :: write name) = name.toList)
    (nonempty : ∀ name ∈ names, name.toList ≠ []) :
    items clean (' ' :: [',', ' '].intercalate (names.map write)) = names := by
  cases hnames : names with
  -- what is left of the padding alone is empty, and no item
  | nil =>
    have hsplit : [' '].splitOn ',' = [[' ']] := List.splitOn_eq_singleton (by decide)
    simp [items, hsplit, blank]
  | cons first others =>
    rw [← hnames]
    have ne : names.map write ≠ [] := by simp [hnames]
    have hclean : ((names.map write).map (' ' :: ·)).map clean = names.map String.toList := by
      rw [List.map_map, List.map_map]
      exact List.map_congr_left cleans
    have hfilter : (names.map String.toList).filter (· ≠ []) = names.map String.toList := by
      rw [List.filter_eq_self, List.forall_mem_map]
      exact fun name hname => decide_eq_true (nonempty name hname)
    rw [items, Text.splitOn_intercalate (by decide) ne (List.forall_mem_map.mpr free), hclean, hfilter, List.map_map]
    simp [Function.comp_def]

/-- The bracketed names of a listing are read back in order. -/
theorem items_listed {names : List String} (plain : ∀ name ∈ names, IsPlain name) :
    items (Text.strip isBracket ∘ Text.trim) (' ' :: [',', ' '].intercalate (names.map bracketed)) = names := by
  have free : ∀ name ∈ names, ',' ∉ bracketed name := by
    intro name hname
    simp [bracketed, (plain name hname).comma]
  exact items_intercalate (by decide) free (fun name hname => strip_bracketed (plain name hname))
    fun name hname => (plain name hname).nonempty

/-- A listing is read back name by name. -/
theorem objectives?_listing {header : String} {names : List String} (free : ':' ∉ header.toList)
    (plain : ∀ name ∈ names, IsPlain name) : objectives? (listing header names) = some names := by
  have hcut := Text.cutAt?_eq_some_iff.mpr ⟨free, toList_listing header names⟩
  rw [objectives?, hcut]
  exact congrArg some (items_listed plain)

/-- A reply is not understood just if it has no colon. -/
theorem objectives?_eq_none_iff {reply : String} : objectives? reply = none ↔ ':' ∉ reply.toList := by
  rw [objectives?, Option.map_eq_none_iff, Text.cutAt?_eq_none_iff]

end Reply

/-! ### The turns of a cleanup -/

namespace Engine

variable {e : Engine} {commands : List Command} {stage : Stage} {reply : String} {names : List String}
  {starting : Bool}

/-- A cleanup begins with asking for the objectives. -/
theorem Opens.removeStale_inv {draws : Draws} (opens : e.Opens draws .removeStale commands stage) :
    commands = [.listObjectives] ∧ stage = .listingObjectives false := by
  cases opens with
  | removeStale => exact ⟨rfl, rfl⟩

/-- A cleanup goes on with removing the listed names that are left over, all in one batch. -/
theorem Continues.remove_inv (continues : e.Continues reply (.listingObjectives starting) commands stage) :
    ∃ names, Reply.objectives? reply = some names ∧ commands = (names.filter e.isStale).map .removeObjective ∧
      stage = .removing (names.filter e.isStale).length starting := by
  cases continues with
  | @remove _ names listed _ => exact ⟨names, listed, rfl, rfl⟩

/-- What a cleanup does with a listing that it has read. -/
theorem resumeRemove_of_listed (listed : Reply.objectives? reply = some names) (e : Engine) (starting : Bool) :
    e.resumeRemove reply starting =
      if names.filter e.isStale = [] then e.endRemove 0 starting
      else e.send ((names.filter e.isStale).map .removeObjective)
        (.removing (names.filter e.isStale).length starting) := by
  simp only [resumeRemove, listed]
  split
  · rename_i hnone
    rw [if_pos hnone]
  · rename_i hsome
    rw [if_neg hsome]

/-- A cleanup changes an engine's statistics at most. -/
theorem engine_resumeRemove (e : Engine) (reply : String) :
    ∃ stats, (e.resumeRemove reply false).engine = { e with stats } := by
  cases listed : Reply.objectives? reply with
  | none => exact ⟨e.stats, by rw [resumeRemove, listed]; rfl⟩
  | some names =>
    rw [resumeRemove_of_listed listed]
    split
    · exact ⟨e.stats, rfl⟩
    · exact ⟨_, rfl⟩

end Engine

namespace Host

section

variable {latency : Nat} {rules : List Rule} {draws : Draws} {config : Config} {h : Host} {past : List Taken}
  {s : Taken} {e : Engine} {i n : Nat} {origin : Origin} {begun : Nat} {x : Exchange} {xs : List Exchange}

theorem leftOver_eq (he : s.host.engines[i]? = some e) (names : List String) :
    s.host.leftOver i names = names.filter e.isStale := by
  refine List.filter_congr fun name _ => ?_
  rw [bound?, he, Option.bind_some, Engine.isStale, Table.contains, Option.not_isSome]

/-- Where a cleanup stands that has taken a reply: it has the listing before it, or it has removed what was stale
and is at its end. -/
theorem Dialogue.cleanup_cases (trace : Trace (start latency rules draws config) past h)
    (dialogue : Dialogue i past origin .removeStale begun n (x :: xs)) (here : turnAt? past n = some s) :
    x.commands = [.listObjectives] ∧ ∃ e, s.host.engines[i]? = some e ∧
      (xs = [] ∧ s.stretch? = some (origin, i, e.resumeRemove x.reply false) ∨
        ∃ y listed e₀ names, xs = [y] ∧ turnAt? past x.taken = some listed ∧
          listed.host.engines[i]? = some e₀ ∧ Reply.objectives? x.reply = some names ∧
            s.stretch? = some (origin, i, e.endRemove (names.filter e₀.isStale).length false)) := by
  induction xs using List.reverseRecOn generalizing n s with
  | nil =>
    obtain ⟨e₀, draws, opens⟩ := dialogue.opens
    obtain ⟨hcommands, hstage⟩ := opens.removeStale_inv
    obtain ⟨e, he, hs⟩ := dialogue.stretch trace List.getLast?_singleton here
    rw [hstage] at hs
    exact ⟨hcommands, e, he, .inl ⟨rfl, hs⟩⟩
  | append_singleton xs y ih =>
    have dialogue : Dialogue i past origin .removeStale begun n ((x :: xs) ++ [y]) := dialogue
    obtain ⟨before, asker, o, hasker, hs₀, hn⟩ := dialogue.asks
    obtain ⟨hcommands, e₀, he₀, ⟨rfl, hs⟩ | ⟨_, _, _, _, -, -, -, -, hs⟩⟩ := ih before hasker
    · rw [hs₀] at hs
      cases hs
      have hn : (e₀.resume (.listingObjectives false) x.reply).next = .send y.commands y.stage := hn
      obtain ⟨names, listed, -, hstage⟩ := (Engine.resume_eq_send_iff.mp hn).remove_inv
      obtain ⟨e, he, hs⟩ := dialogue.stretch trace List.getLast?_concat here
      rw [hstage] at hs
      have htaken : x.taken = y.asked := before.chain.2.2.1 x rfl
      exact ⟨hcommands, e, he, .inr ⟨y, asker, e₀, names, rfl, by rw [htaken, hasker], he₀, listed, hs⟩⟩
    -- the end of a cleanup sends nothing
    · rw [hs₀] at hs
      cases hs
      cases hn

/-- With a listing that is understood the cleanup removes exactly the names left over, one a line in their order, or
answers 0 if there are none. -/
theorem Dialogue.removes (trace : Trace (start latency rules draws config) past h)
    (dialogue : Dialogue i past origin .removeStale begun n [x]) (here : turnAt? past n = some s)
    {names : List String} (listed : Reply.objectives? x.reply = some names)
    (unbroken : ∀ name ∈ names, '\n' ∉ name.toList) :
    s.host.leftOver i names = [] ∧ s.sent i = [] ∧ s.answer? i = some (.count 0) ∨
      s.host.leftOver i names ≠ [] ∧ s.answer? i = none ∧ ∃ batch, s.sent i = [batch] ∧
        Command.lines batch = (s.host.leftOver i names).map ("scoreboard objectives remove " ++ ·) := by
  obtain ⟨-, e, he, ⟨-, hs⟩ | ⟨_, _, _, _, hxs, -⟩⟩ := dialogue.cleanup_cases trace here
  · rw [Engine.resumeRemove_of_listed listed] at hs
    rw [leftOver_eq he]
    split at hs
    · rename_i hnone
      exact .inl ⟨hnone, sent_and_answer?_of_done hs rfl⟩
    · rename_i hsome
      refine .inr ⟨hsome, ?_, _, ?_, Command.lines_removals_of_unbroken hsome fun name hname =>
        unbroken name (List.mem_filter.mp hname).1⟩
      · rw [Taken.answer?, hs]
        rfl
      · rw [sent_of_stretch hs, if_pos rfl]
        rfl
  · cases hxs

/-- A cleanup has one listing and at most one batch, and changes neither scores nor bindings nor the registry. -/
theorem Dialogue.keeps (trace : Trace (start latency rules draws config) past h)
    (dialogue : Dialogue i past origin .removeStale begun n (x :: xs)) (here : turnAt? past n = some s) :
    xs.length ≤ 1 ∧ s.Keeps := by
  obtain ⟨-, e, he, ⟨rfl, hs⟩ | ⟨y, _, e₀, names, rfl, -, -, -, hs⟩⟩ := dialogue.cleanup_cases trace here
  · obtain ⟨stats, same⟩ := e.engine_resumeRemove x.reply
    exact ⟨Nat.zero_le 1, keeps_of_stats he hs same⟩
  · have same : (e.endRemove (names.filter e₀.isStale).length false).engine = { e with stats := e.stats } := rfl
    exact ⟨Nat.le_refl 1, keeps_of_stats he hs same⟩

/-- In every trace, cleanups that are told a listing remove what they should. -/
theorem removedExactly_of_trace (trace : Trace (start latency rules draws config) past h) (i : Nat) :
    RemovedExactly i past h where
  reads header names free plain := Reply.objectives?_listing free plain
  begins s hs origin hturn known := by
    obtain ⟨e, he⟩ := Option.isSome_iff_exists.mp known
    have hstretch : s.stretch? = some (origin, i, e.beginRemove false) :=
      stretch?_eq_some_iff.mpr ⟨e, he, .inl ⟨_, hturn, rfl⟩⟩
    refine ⟨?_, keeps_of_stats he hstretch rfl⟩
    rw [sent_of_stretch hstretch, if_pos rfl]
    rfl
  asked origin begun n x xs dialogue := by
    obtain ⟨s, here⟩ := dialogue.exists_turn
    have htext : x.text = "scoreboard objectives list" := by
      rw [Exchange.text, (dialogue.cleanup_cases trace here).1]
      decide
    have hbegun : x.asked = begun := dialogue.chain.2.1 x rfl
    obtain ⟨asker, hasker, -, hreply⟩ := dialogue.answered List.mem_cons_self
    exact ⟨htext, hbegun, asker, by rw [← hbegun, hasker], hreply⟩
  removes origin begun n x s header names dialogue here free plain hreply := by
    have listed := Reply.objectives?_listing free plain
    rw [← hreply] at listed
    exact dialogue.removes trace here listed fun name hname => (plain name hname).unbroken
  answers origin begun n x y s listing header names dialogue here hlisting free plain hreply := by
    have listed := Reply.objectives?_listing free plain
    rw [← hreply] at listed
    -- the second exchange is the batch, so its reply is followed by the answer
    obtain ⟨-, e, he, ⟨hxs, -⟩ | ⟨_, listing', e₀, names', -, hlisting', he₀, listed', hs⟩⟩ :=
      dialogue.cleanup_cases trace here
    · cases hxs
    · rw [hlisting] at hlisting'
      cases hlisting'
      rw [listed] at listed'
      cases listed'
      rw [leftOver_eq he₀]
      exact sent_and_answer?_of_done hs rfl
  unread origin begun n x xs s dialogue here free := by
    have hnone := Reply.objectives?_eq_none_iff.mpr free
    obtain ⟨-, e, he, ⟨hxs, hs⟩ | ⟨_, _, _, _, -, -, -, listed, -⟩⟩ := dialogue.cleanup_cases trace here
    · have hdone : (e.resumeRemove x.reply false).next = .done (.count 0) := by
        rw [Engine.resumeRemove, hnone]
        rfl
      exact ⟨hxs, sent_and_answer?_of_done hs hdone⟩
    · rw [hnone] at listed
      cases listed
  keeps origin begun n x xs s dialogue here := dialogue.keeps trace here
  goesOn origin begun n xs s dialogue here text hmem := trace.dialogue_goesOn dialogue here hmem

end

/-- A run in which of four objectives listed one is removed: one is bound, one is not generated, and one has a
colon and a bracket inside. -/
theorem removedExactly_of_listing : ∃ past h,
    Trace (start 10 [.toStart "scoreboard objectives list"
      (Reply.listing "There are 4 objective(s)" ["tri_a", "tri_tQaBe_AAAABw", "kills", "a: ]b"])] ⟨[7], 0⟩ {})
      past h ∧ RemovedExactly 0 past h ∧ (∃ s ∈ past, s.sent 0 = ["scoreboard objectives remove tri_a"]) ∧
        (.foreground, .count 1) ∈ h.answers := by
  let names := ["tri_a", "tri_tQaBe_AAAABw", "kills", "a: ]b"]
  let rules := [Rule.toStart "scoreboard objectives list" (Reply.listing "There are 4 objective(s)" names)]
  let bind := Request.operate 0 (.bind ⟨"demo", "demo"⟩ { id := "first" })
  have run : (((start 10 rules ⟨[7], 0⟩ {}).drive 50 bind).bind (drive 50 · (.operate 0 .removeStale))).map
      (fun h => (h.cleanups 0, decide ((.foreground, .count 1) ∈ h.answers))) =
        some ([[.removeObjective "tri_a"]], true) := by decide +kernel
  obtain ⟨h, hdriven, hend⟩ := Option.map_eq_some_iff.mp run
  obtain ⟨hsent, hanswered⟩ : h.cleanups 0 = [[.removeObjective "tri_a"]] ∧
      (.foreground, .count 1) ∈ h.answers := by simpa using hend
  obtain ⟨bound, hbound, hcleaned⟩ := Option.bind_eq_some_iff.mp hdriven
  obtain ⟨past, trace⟩ := (steps_of_drive hbound).trans (steps_of_drive hcleaned)
  obtain ⟨s, hs, origin, count, starting, reply, hdeed⟩ :=
    trace.exists_cleansUp (by rw [hsent]; exact List.mem_cons_self) List.not_mem_nil
  obtain ⟨o, hstretch, hn, -⟩ := sent_mem_deeds.mp hdeed
  refine ⟨past, h, trace, removedExactly_of_trace trace 0, ⟨s, hs, ?_⟩, hanswered⟩
  rw [sent_of_stretch hstretch, if_pos rfl, hn]
  rfl

end Host

end Scoreboard

import Scoreboard.Proofs.Cleanup
import Scoreboard.Proofs.Host.Courses
import Scoreboard.Proofs.Text

/-!
# What a cleanup has the console do

The console takes a batch line by line. Main statement (`removalsRead_of_trace`): in every trace a batch that
cleans up removes generated names that are not bound, as many as are answered in the end, and its lines are
the lines of these names, each name behind the words that remove an objective. So there are as many lines as
are answered exactly when no name has a line break, and then every line removes one of the names
(`RemovalsRead`). A listing that has no line break behind its first colon names none with one; another one can
have the console take the rest of a name for a command (`removes_line_break`).
-/

namespace Scoreboard

namespace Reply

/-- An item has no character that the list does not have. -/
theorem subset_of_mem_items {clean : List Char → List Char} (cleans : ∀ cs, clean cs ⊆ cs) {cs : List Char}
    {name : String} (h : name ∈ items clean cs) : name.toList ⊆ cs := by
  obtain ⟨item, hitem, rfl⟩ := List.mem_map.mp h
  obtain ⟨piece, hpiece, rfl⟩ := List.mem_map.mp (List.mem_filter.mp hitem).1
  rw [String.toList_ofList]
  exact List.Subset.trans (cleans piece) (Text.subset_of_mem_splitOn hpiece)

/-- What a listing names stands behind its first colon. -/
theorem subset_of_objectives? {kind list : List Char} {reply : String} {names : List String} {name : String}
    (listed : objectives? reply = some names) (cut : Text.cutAt? ':' reply.toList = some (kind, list))
    (h : name ∈ names) : name.toList ⊆ list := by
  rw [objectives?, cut, Option.map_some, Option.some.injEq] at listed
  subst listed
  have cleans : ∀ cs, Text.strip isBracket (Text.trim cs) ⊆ cs := fun cs =>
    List.Subset.trans (Text.stripped_strip isBracket _).subset (Text.stripped_strip Text.isBlank cs).subset
  exact subset_of_mem_items cleans h

end Reply

namespace Command

/-! ### Lines of a batch that removes -/

/-- The lines of a removal are those of the name, with the command before the first one. -/
theorem lines_removeObjective (name : String) : lines (removeObjective name).text =
    (lines name).modifyHead ("scoreboard objectives remove " ++ ·) := by
  rw [text_removeObjective]
  exact lines_append (by decide) name

/-- The lines of a batch of removals are those of each name, in order. -/
theorem lines_removals {names : List String} (ne : names ≠ []) :
    lines (batch (names.map .removeObjective)) = names.flatMap fun name =>
      (lines name).modifyHead ("scoreboard objectives remove " ++ ·) := by
  rw [lines_batch_eq_flatMap (by simpa using ne), List.flatMap_map]
  simp only [lines_removeObjective]

/-- Every line break in a name makes a line more. -/
theorem length_lines_removals {names : List String} (ne : names ≠ []) :
    (lines (batch (names.map .removeObjective))).length =
      names.length + (names.map (·.toList.count '\n')).sum := by
  rw [lines_removals ne, List.length_flatMap]
  clear ne
  induction names with
  | nil => rfl
  | cons name names ih =>
    rw [List.map_cons, List.sum_cons, ih, List.length_modifyHead, length_lines, List.length_cons,
      List.map_cons, List.sum_cons]
    omega

/-- Names without line breaks are removed one a line. -/
theorem lines_removals_of_unbroken {names : List String} (ne : names ≠ [])
    (unbroken : ∀ name ∈ names, '\n' ∉ name.toList) :
    lines (batch (names.map .removeObjective)) = names.map ("scoreboard objectives remove " ++ ·) := by
  rw [lines_batch (by simpa using ne), List.map_map]
  · exact List.map_congr_left fun name _ => text_removeObjective name
  · intro command hcommand
    obtain ⟨name, hname, rfl⟩ := List.mem_map.mp hcommand
    exact newline_notMem_removeObjective (unbroken name hname)

end Command

namespace Host

/-- What tells of the end of a cleanup how much it has removed: the answer, or the note of a start. -/
def Tells (starting : Bool) (count : Nat) (o : Outcome) : Prop :=
  if starting then o.notes = [.started (some count)] else o.next = .done (.count count)

/-- The lines that the console has of a batch that removes names. -/
def removalLines (names : List String) : List String :=
  Command.lines (Command.batch (names.map .removeObjective))

/-- What a cleanup removes and counts: generated names that are not bound, at least one, and the answer is their
number. -/
structure RemovalsRead (i : Nat) (past : List Taken) : Prop where
  /-- A batch that cleans up removes names, at least one, all of them generated and not bound. -/
  removes : ∀ s ∈ past, ∀ commands, s.CleansUp i commands → ∃ names : List String,
    commands = names.map .removeObjective ∧ names ≠ [] ∧
      ∀ name ∈ names, Trigger.isGenerated name ∧ s.host.bound? i name = none
  /-- The cleanup that takes the reply to such a batch tells how many names there were in it. -/
  counted : ∀ n s origin count starting reply, turnAt? past n = some s →
    s.turn = .resume origin i (.removing count starting) reply → ∃ m sender, ∃ names : List String, ∃ o,
      Wait past m n s.turn ∧ turnAt? past m = some sender ∧
        sender.CleansUp i (names.map .removeObjective) ∧ names.length = count ∧
          s.stretch? = some (origin, i, o) ∧ Tells starting count o
  /-- The lines of the batch are the lines of its names, each name behind the words that remove. -/
  lines : ∀ s ∈ past, ∀ names : List String, s.CleansUp i (names.map .removeObjective) → removalLines names =
    names.flatMap fun name => (Command.lines name).modifyHead ("scoreboard objectives remove " ++ ·)
  /-- There are as many lines as names exactly when no name has a line break. -/
  exact_iff : ∀ s ∈ past, ∀ names : List String, s.CleansUp i (names.map .removeObjective) →
    ((removalLines names).length = names.length ↔ ∀ name ∈ names, '\n' ∉ name.toList)
  /-- Then every line removes one of the names. -/
  unbroken : ∀ s ∈ past, ∀ names : List String, s.CleansUp i (names.map .removeObjective) →
    (∀ name ∈ names, '\n' ∉ name.toList) →
      removalLines names = names.map ("scoreboard objectives remove " ++ ·)
  /-- That is so if the listing has no line break behind its first colon. -/
  onOneLine : ∀ s ∈ past, ∀ names : List String, s.CleansUp i (names.map .removeObjective) →
    ∀ origin starting reply kind list, s.turn = .resume origin i (.listingObjectives starting) reply →
      Text.cutAt? ':' reply.toList = some (kind, list) → '\n' ∉ list →
        ∀ name ∈ names, '\n' ∉ name.toList

/-! ### One turn -/

section

variable {s : Taken} {i : Nat} {names : List String}

/-- An empty batch is never sent. -/
theorem Taken.CleansUp.ne_nil (cleans : s.CleansUp i (names.map .removeObjective)) : names ≠ [] := by
  obtain ⟨_, -, _, _, listing, -, -, -, stale, hcommands⟩ := cleansUp_iff.mp cleans
  rintro rfl
  exact stale (List.map_eq_nil_iff.mp hcommands.symm)

/-- What a batch removes has been listed by the reply that its turn takes, and is stale. -/
theorem Taken.CleansUp.eq_filter (cleans : s.CleansUp i (names.map .removeObjective)) :
    ∃ e origin starting reply listing, s.host.engines[i]? = some e ∧
      s.turn = .resume origin i (.listingObjectives starting) reply ∧
        Reply.objectives? reply = some listing ∧ names = listing.filter e.isStale := by
  obtain ⟨e, origin, starting, reply, listing, he, hturn, listed, -, hcommands⟩ := cleansUp_iff.mp cleans
  exact ⟨e, origin, starting, reply, listing, he, hturn, listed,
    List.map_injective_iff.mpr (fun _ _ => Command.removeObjective.inj) hcommands⟩

/-- Whatever is removed is a generated name that is not bound. -/
theorem Taken.CleansUp.isGenerated (cleans : s.CleansUp i (names.map .removeObjective)) {name : String}
    (hname : name ∈ names) : Trigger.isGenerated name ∧ s.host.bound? i name = none := by
  obtain ⟨e, _, _, _, listing, he, -, -, rfl⟩ := cleans.eq_filter
  obtain ⟨generated, hfree⟩ := Engine.isStale_eq_true_iff.mp (List.mem_filter.mp hname).2
  refine ⟨generated, ?_⟩
  rw [bound?, he, Option.bind_some, hfree]

/-- A listing without a line break after its first colon gives names without line breaks. -/
theorem Taken.CleansUp.unbroken (cleans : s.CleansUp i (names.map .removeObjective)) {origin : Origin}
    {starting : Bool} {reply : String} {kind list : List Char}
    (hturn : s.turn = .resume origin i (.listingObjectives starting) reply)
    (cut : Text.cutAt? ':' reply.toList = some (kind, list)) (oneLine : '\n' ∉ list) :
    ∀ name ∈ names, '\n' ∉ name.toList := by
  obtain ⟨e, origin', starting', reply', listing, -, hturn', listed, rfl⟩ := cleans.eq_filter
  rw [hturn] at hturn'
  cases hturn'
  intro name hname hbreak
  exact oneLine (Reply.subset_of_objectives? listed cut (List.mem_filter.mp hname).1 hbreak)

/-- A stretch that waits for the reply to a batch that cleans up has sent it, and knows its length. -/
theorem cleansUp_of_leaves {origin : Origin} {count : Nat} {starting : Bool} {reply : String}
    (hleaves : .resume origin i (.removing count starting) reply ∈ s.leaves) :
    ∃ names : List String, s.CleansUp i (names.map .removeObjective) ∧ names.length = count := by
  obtain ⟨o, commands, hs, hn, hreply⟩ := resume_mem_leaves.mp hleaves
  have cleans : s.CleansUp i commands :=
    ⟨origin, count, starting, reply, sent_mem_deeds.mpr ⟨o, hs, hn, hreply⟩⟩
  obtain ⟨e, -, ⟨operation, -, rfl⟩ | ⟨stage, reply', -, rfl⟩⟩ := stretch?_eq_some_iff.mp hs
  · exact absurd (Engine.begin_eq_send_iff.mp hn) Engine.Opens.removing
  · cases Engine.resume_eq_send_iff.mp hn with
    | remove _ _ => exact ⟨_, cleans, rfl⟩

end

/-! ### The whole trace -/

variable {latency : Nat} {rules : List Rule} {draws : Draws} {config : Config} {h : Host} {past : List Taken}

/-- The answer to a cleanup is the number of names in the batch that it has sent. -/
theorem Trace.counts_sent (trace : Trace (start latency rules draws config) past h) {i n : Nat} {s : Taken}
    {origin : Origin} {count : Nat} {starting : Bool} {reply : String} (hs : turnAt? past n = some s)
    (hturn : s.turn = .resume origin i (.removing count starting) reply) :
    ∃ m sender, ∃ names : List String, ∃ o, Wait past m n s.turn ∧ turnAt? past m = some sender ∧
      sender.CleansUp i (names.map .removeObjective) ∧ names.length = count ∧
        s.stretch? = some (origin, i, o) ∧ Tells starting count o := by
  obtain ⟨m, wait⟩ := trace.exists_wait hs hturn
  obtain ⟨sender, hsender, hleaves⟩ := wait.left
  obtain ⟨names, cleans, hcount⟩ := cleansUp_of_leaves hleaves
  obtain ⟨e, he⟩ := exists_of_memory? (trace.asked_of_mem (mem_of_turnAt? hs) hturn).1
  have hstretch : s.stretch? = some (origin, i, e.endRemove count starting) :=
    stretch?_eq_some_iff.mpr ⟨e, he, .inr ⟨_, _, hturn, rfl⟩⟩
  rw [hturn]
  refine ⟨m, sender, names, _, wait, hsender, cleans, hcount, hstretch, ?_⟩
  cases starting <;> exact rfl

/-- In every trace, the lines of a batch that cleans up are those of the names that it removes. -/
theorem removalsRead_of_trace (trace : Trace (start latency rules draws config) past h) (i : Nat) :
    RemovalsRead i past where
  removes s _ commands cleans := by
    obtain ⟨names, rfl, ne, -⟩ := bound?_of_cleansUp cleans
    exact ⟨names, rfl, ne, fun name hname => cleans.isGenerated hname⟩
  counted n s origin count starting reply hs hturn := trace.counts_sent hs hturn
  lines s _ names cleans := Command.lines_removals (cleans.ne_nil)
  exact_iff s _ names cleans := by
    rw [removalLines, Command.length_lines_removals (cleans.ne_nil), Nat.add_eq_left,
      List.sum_eq_zero_iff_forall_eq_nat, List.forall_mem_map]
    exact forall₂_congr fun name _ => List.count_eq_zero
  unbroken s _ names cleans := Command.lines_removals_of_unbroken (cleans.ne_nil)
  onOneLine s _ names cleans origin starting reply kind list hturn cut oneLine :=
    cleans.unbroken hturn cut oneLine

/-- A run in which two triggers that are left over are removed, and one is told from a bound one. -/
theorem removalsRead_of_leftovers : ∃ past h,
    Trace (start 10 [.toStart "scoreboard objectives list" "left: [tri_a], [tri_tQaBe_AAAABw], [tri_b]"]
      ⟨[7], 0⟩ {}) past h ∧ RemovalsRead 0 past ∧
        (∃ s ∈ past, s.CleansUp 0 [.removeObjective "tri_a", .removeObjective "tri_b"]) ∧
          (.foreground, .count 2) ∈ h.answers := by
  let rules := [Rule.toStart "scoreboard objectives list" "left: [tri_a], [tri_tQaBe_AAAABw], [tri_b]"]
  let bind := Request.operate 0 (.bind ⟨"demo", "demo"⟩ { id := "first" })
  let cleanup := Request.operate 0 .removeStale
  have run : (((start 10 rules ⟨[7], 0⟩ {}).drive 50 bind).bind (drive 50 · cleanup)).map
      (fun h => (h.cleanups 0, decide ((.foreground, .count 2) ∈ h.answers))) =
        some ([[.removeObjective "tri_a", .removeObjective "tri_b"]], true) := by decide +kernel
  obtain ⟨h, hdriven, hend⟩ := Option.map_eq_some_iff.mp run
  obtain ⟨hsent, hanswered⟩ : h.cleanups 0 = [[.removeObjective "tri_a", .removeObjective "tri_b"]] ∧
      (.foreground, .count 2) ∈ h.answers := by simpa using hend
  obtain ⟨bound, hbound, hcleaned⟩ := Option.bind_eq_some_iff.mp hdriven
  obtain ⟨past, trace⟩ := (steps_of_drive hbound).trans (steps_of_drive hcleaned)
  have removes := trace.exists_cleansUp (by rw [hsent]; exact List.mem_cons_self) List.not_mem_nil
  exact ⟨past, h, trace, removalsRead_of_trace trace 0, removes, hanswered⟩

/-- A listing with a line break in a name: one removal is answered, and the rest of the name stands on a line
of its own. -/
theorem removes_line_break : ∃ past h,
    Trace (start 0 [.toStart "scoreboard objectives list" "There are 1 objective(s): [tri_a\nop Eve]"] {} {})
      past h ∧ (∃ s ∈ past, s.CleansUp 0 [.removeObjective "tri_a\nop Eve"]) ∧
        (.foreground, .count 1) ∈ h.answers ∧
          removalLines ["tri_a\nop Eve"] = ["scoreboard objectives remove tri_a", "op Eve"] := by
  let rules := [Rule.toStart "scoreboard objectives list" "There are 1 objective(s): [tri_a\nop Eve]"]
  let cleanup := Request.operate 0 .removeStale
  have run : ((start 0 rules {} {}).drive 50 cleanup).map
      (fun h => (h.cleanups 0, decide ((.foreground, .count 1) ∈ h.answers))) =
        some ([[.removeObjective "tri_a\nop Eve"]], true) := by decide +kernel
  obtain ⟨h, hdriven, hend⟩ := Option.map_eq_some_iff.mp run
  obtain ⟨hsent, hanswered⟩ : h.cleanups 0 = [[.removeObjective "tri_a\nop Eve"]] ∧
      (.foreground, .count 1) ∈ h.answers := by simpa using hend
  obtain ⟨past, trace⟩ := steps_of_drive hdriven
  have removes := trace.exists_cleansUp (by rw [hsent]; exact List.mem_cons_self) List.not_mem_nil
  exact ⟨past, h, trace, removes, hanswered, by decide +kernel⟩

end Host

end Scoreboard

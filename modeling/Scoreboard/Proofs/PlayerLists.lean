import Scoreboard.Proofs.FullSync
import Scoreboard.Proofs.Listings

/-!
# Lists of players

A server lists the players that it tracks behind an announcement and a colon. Such a list is read back player by
player, and whatever a reply says, a player that is read from it stands in a command like one word or several, never
like two commands (`playersRead_of_trace`).

The announcement is found where the text begins, so look-alikes in it do not matter (`announced?_playerList`). What
is read from any other text is what is left of a part of a line between commas when the white space around it is
taken away (`isListable_of_players?`).
-/

namespace Scoreboard

namespace Reply

/-- Whether a player can be told from what stands around it in a list. -/
structure IsListable (player : String) : Prop where
  nonempty : player.toList ≠ []
  comma : ',' ∉ player.toList
  unbroken : '\n' ∉ player.toList
  first : ∀ c ∈ player.toList.head?, ¬Text.isBlank c
  last : ∀ c ∈ player.toList.getLast?, ¬Text.isBlank c

/-- What a server writes that lists the players tracked. -/
def playerList (count kind : String) (players : List String) : String :=
  "There are " ++ count ++ " tracked " ++ kind ++ ": " ++ ", ".intercalate players

end Reply

namespace Host

/-- Lists of players are read back, and no player that is read can break a command. -/
structure PlayersRead (i : Nat) (past : List Taken) : Prop where
  /-- A list is read back player by player, whatever its first line is followed by. -/
  reads : ∀ (count kind rest : String) (players : List String), count.toList ≠ [] →
    (∀ c ∈ count.toList, Text.isDigit c) → ':' ∉ kind.toList → '\n' ∉ kind.toList →
      (∀ player ∈ players, Reply.IsListable player) → (rest = "" ∨ ∃ more, rest = "\n" ++ more) →
        Reply.players? (Reply.playerList count kind players ++ rest) = some players
  /-- Whatever the reply is, a player that is read could have been listed so, and has no white space around it. -/
  safe : ∀ reply players, Reply.players? reply = some players → ∀ player ∈ players,
    Reply.IsListable player ∧ Text.trim player.toList = player.toList
  /-- So a full synchronisation asks for scores with single lines, if no objective has a line break. -/
  asks : ∀ n players objectives read s, Reads i past n players objectives read → turnAt? past n = some s →
    ∀ text ∈ read.map Exchange.text ++ s.sent i, ∃ player ∈ players, ∃ objective ∈ objectives,
      text = "scoreboard players get " ++ player ++ " " ++ objective ∧
        ('\n' ∉ objective.toList → Command.lines text = [text])

end Host

namespace Reply

variable {count kind reply : String} {players : List String} {player : String} {cs rest : List Char}

theorem IsListable.trim_eq (listable : IsListable player) : Text.trim player.toList = player.toList :=
  Text.strip_eq_self listable.first listable.last

theorem trim_space (cs : List Char) : Text.trim (' ' :: cs) = Text.trim cs := rfl

/-! ### Reading a list back -/

/-- A space in front does not matter for the items of a list. -/
theorem items_space (cs : List Char) : items Text.trim (' ' :: cs) = items Text.trim cs := by
  have hspace : ¬((' ' == ',') = true) := by decide
  obtain ⟨first, others, hsplit⟩ := List.exists_cons_of_ne_nil (List.splitOn_ne_nil ',' cs)
  rw [items, items, List.splitOn_cons_eq_if_modifyHead, if_neg hspace, hsplit, List.modifyHead_cons, List.map_cons,
    List.map_cons, trim_space]

/-- Listable names with commas between them are read back in order. -/
theorem items_players (listable : ∀ player ∈ players, IsListable player) :
    items Text.trim ([',', ' '].intercalate (players.map String.toList)) = players := by
  rw [← items_space]
  exact items_intercalate (by decide) (fun player hplayer => (listable player hplayer).comma)
    (fun player hplayer => by rw [trim_space, (listable player hplayer).trim_eq])
    fun player hplayer => (listable player hplayer).nonempty

/-- A list of names without line breaks has none. -/
theorem newline_notMem_players (unbroken : ∀ player ∈ players, '\n' ∉ player.toList) :
    '\n' ∉ [',', ' '].intercalate (players.map String.toList) := by
  induction players with
  | nil => decide
  | cons first others ih =>
    obtain ⟨hfirst, hothers⟩ := List.forall_mem_cons.mp unbroken
    cases others with
    | nil => simpa using hfirst
    | cons second others =>
      have hrest := ih hothers
      rw [List.map_cons] at hrest
      rw [List.map_cons, List.map_cons, List.intercalate_cons_cons]
      simp [hfirst, hrest]

/-- The count of a list is passed over digit by digit. -/
theorem afterCount?_append (ne : count.toList ≠ []) (digits : ∀ c ∈ count.toList, Text.isDigit c) :
    afterCount? ("There are ".toList ++ (count.toList ++ (" tracked ".toList ++ rest))) = some rest := by
  have stops : ∀ c ∈ (" tracked ".toList ++ rest).head?, ¬Text.isDigit c := by
    intro c hc
    cases hc
    decide
  have htaken := Text.takeWhile_append_of_stops digits stops
  have hleft := Text.dropWhile_append_of_stops digits stops
  rw [afterCount?, Text.dropLead?_append]
  simp only [Option.bind_eq_bind, Option.bind_some, htaken, hleft, if_neg ne, Text.dropLead?_append]

/-- The kind of what is counted reaches up to the first colon. -/
theorem afterKind?_append (free : ':' ∉ kind.toList) (unbroken : '\n' ∉ kind.toList) :
    afterKind? (kind.toList ++ ':' :: rest) = some rest := by
  rw [afterKind?, Text.cutAt?_eq_some_iff.mpr ⟨free, rfl⟩]
  exact if_neg unbroken

/-- A first line is read up to the line break that ends it. -/
theorem firstLine_append (unbroken : '\n' ∉ cs) (ends : ∀ c ∈ rest.head?, c = '\n') :
    Text.firstLine (cs ++ rest) = cs := by
  refine Text.takeWhile_append_of_stops (fun c hc => bne_iff_ne.mpr (ne_of_mem_of_not_mem hc unbroken)) fun c hc => ?_
  rw [ends c hc]
  decide

/-- The announcement stands at the front. -/
theorem announced?_playerList (ne : count.toList ≠ []) (digits : ∀ c ∈ count.toList, Text.isDigit c)
    (free : ':' ∉ kind.toList) (unbroken : '\n' ∉ kind.toList)
    (listable : ∀ player ∈ players, IsListable player) (ends : ∀ c ∈ rest.head?, c = '\n') :
    announced? ((playerList count kind players).toList ++ rest) =
      some ([',', ' '].intercalate (players.map String.toList)) := by
  have htext : (playerList count kind players).toList ++ rest = "There are ".toList ++ (count.toList ++
      (" tracked ".toList ++ (kind.toList ++ ':' :: ' ' ::
        ([',', ' '].intercalate (players.map String.toList) ++ rest)))) := by
    simp [playerList]
  have hlist := newline_notMem_players fun player hplayer => (listable player hplayer).unbroken
  rw [htext, announced?, afterCount?_append ne digits, Option.bind_some, afterKind?_append free unbroken,
    Option.map_some]
  exact congrArg some (firstLine_append hlist ends)

/-- A well-formed list is read as its players, and what stands in further lines is not looked at. -/
theorem players?_playerList {more : String} (ne : count.toList ≠ []) (digits : ∀ c ∈ count.toList, Text.isDigit c)
    (free : ':' ∉ kind.toList) (unbroken : '\n' ∉ kind.toList)
    (listable : ∀ player ∈ players, IsListable player) (ends : ∀ c ∈ more.toList.head?, c = '\n') :
    players? (playerList count kind players ++ more) = some players := by
  have hannounced := announced?_playerList ne digits free unbroken listable ends
  have hlist : playerList? (playerList count kind players ++ more).toList =
      some ([',', ' '].intercalate (players.map String.toList)) := by
    rw [String.toList_append]
    rcases htext : (playerList count kind players).toList ++ more.toList with _ | ⟨c, cs⟩
    · rw [htext] at hannounced
      exact hannounced
    · rw [htext] at hannounced
      rw [playerList?, hannounced]
      rfl
  rw [players?, hlist, Option.map_some, items_players listable]

/-! ### Reading any text -/

/-- Every item of one line is a listable name. -/
theorem isListable_of_mem_items (unbroken : '\n' ∉ cs) (h : player ∈ items Text.trim cs) : IsListable player := by
  obtain ⟨item, hitem, rfl⟩ := List.mem_map.mp h
  obtain ⟨hmem, hne⟩ := List.mem_filter.mp hitem
  obtain ⟨piece, hpiece, rfl⟩ := List.mem_map.mp hmem
  have stripped := Text.stripped_strip Text.isBlank piece
  have hsubset : Text.trim piece ⊆ piece := stripped.subset
  refine ⟨?_, ?_, ?_, ?_, ?_⟩ <;> rw [String.toList_ofList]
  · exact of_decide_eq_true hne
  · exact fun h => Text.notMem_of_mem_splitOn hpiece (hsubset h)
  · exact fun h => unbroken (Text.subset_of_mem_splitOn hpiece (hsubset h))
  · exact stripped.first
  · exact stripped.last

/-- A list of players stands on one line. -/
theorem newline_notMem_of_playerList? {list : List Char} (h : playerList? cs = some list) : '\n' ∉ list := by
  -- a list ends with its line
  have hannounced : ∀ {cs : List Char}, announced? cs = some list → '\n' ∉ list := by
    intro cs h
    obtain ⟨rest, -, h⟩ := Option.bind_eq_some_iff.mp h
    obtain ⟨line, -, rfl⟩ := Option.map_eq_some_iff.mp h
    intro hbreak
    have hline := List.all_eq_true.mp (List.all_takeWhile (p := (· != '\n')) (l := dropBlank line)) _ hbreak
    exact absurd hline (by decide)
  induction cs with
  | nil => exact hannounced h
  | cons c cs ih =>
    rw [playerList?] at h
    rcases hfirst : announced? (c :: cs) with _ | first
    · rw [hfirst] at h
      exact ih h
    · rw [hfirst] at h
      cases h
      exact hannounced hfirst

/-- Whatever a reply says, a player that is read is one that can be listed. -/
theorem isListable_of_players? (h : players? reply = some players) (hplayer : player ∈ players) :
    IsListable player := by
  obtain ⟨list, hlist, rfl⟩ := Option.map_eq_some_iff.mp h
  exact isListable_of_mem_items (newline_notMem_of_playerList? hlist) hplayer

end Reply

namespace Host

variable {latency : Nat} {rules : List Rule} {draws : Draws} {config : Config} {h : Host} {past : List Taken}

/-- In every trace, lists of players are read back, and the scores of all players are asked for with single lines. -/
theorem playersRead_of_trace (trace : Trace (start latency rules draws config) past h) (i : Nat) :
    PlayersRead i past where
  reads count kind rest players ne digits free unbroken listable ends := by
    refine Reply.players?_playerList ne digits free unbroken listable fun c hc => ?_
    obtain rfl | ⟨more, rfl⟩ := ends
    · cases hc
    · rw [String.toList_append] at hc
      cases hc
      rfl
  safe reply players listed player hplayer := by
    have listable := Reply.isListable_of_players? listed hplayer
    exact ⟨listable, listable.trim_eq⟩
  asks n players objectives read s reads here text htext := by
    obtain ⟨hread, hsent⟩ := reads.asks trace here
    -- what has been sent and what is sent now both belong to the script of the snapshot
    have hscript : text ∈ Sync.script players objectives := by
      obtain htext | htext := List.mem_append.mp htext
      · rw [hread] at htext
        exact List.mem_of_mem_take htext
      · rw [hsent] at htext
        exact List.mem_of_getElem? (Option.mem_toList.mp htext)
    obtain ⟨player, hplayer, htext⟩ := List.mem_flatMap.mp hscript
    obtain ⟨objective, hobjective, rfl⟩ := List.mem_map.mp htext
    refine ⟨player, hplayer, objective, hobjective, rfl, fun unbroken => Command.lines_of_unbroken ?_⟩
    obtain ⟨_, _, _, _, -, listed, -, -⟩ := reads
    have hplayer := (Reply.isListable_of_players? listed hplayer).unbroken
    simp [hplayer, unbroken]

/-- A run with a list that has look-alikes before and behind it, of players one of whom has a colon and one a space
in the name. -/
theorem playersRead_of_lookalikes : ∃ past h, Trace (start 10 [.toCommand "scoreboard players list"
    (Reply.playerList "2" "There are 3 tracked" ["a:b", "c d"] ++ "\nThere are 1 tracked player: e")] {} {}) past h ∧
      PlayersRead 0 past ∧ h.console.told.take 3 = ["scoreboard players get c d tQaBe_kills",
        "scoreboard players get a:b tQaBe_kills", "scoreboard players list"] := by
  let rules := [Rule.toCommand "scoreboard players list"
    (Reply.playerList "2" "There are 3 tracked" ["a:b", "c d"] ++ "\nThere are 1 tracked player: e")]
  let ensure := Request.operate 0 (.ensure ⟨"demo", "demo"⟩ "kills" "dummy" "Kills")
  have run : (((start 10 rules {} {}).drive 50 ensure).bind (drive 50 · (.operate 0 .sync))).map
      (fun h => h.console.told.take 3) = some ["scoreboard players get c d tQaBe_kills",
        "scoreboard players get a:b tQaBe_kills", "scoreboard players list"] := by decide +kernel
  obtain ⟨h, hdriven, htold⟩ := Option.map_eq_some_iff.mp run
  obtain ⟨ensured, hensured, hsynced⟩ := Option.bind_eq_some_iff.mp hdriven
  obtain ⟨past, trace⟩ := (steps_of_drive hensured).trans (steps_of_drive hsynced)
  exact ⟨past, h, trace, playersRead_of_trace trace 0, htold⟩

end Host

end Scoreboard

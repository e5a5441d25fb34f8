import Scoreboard.Command
import Scoreboard.Proofs.Text

/-!
# Texts of commands

The texts of some commands written out, and the lines of a batch: commands that are sent together arrive as
one text, whose lines are those of the commands (`lines_batch_eq_flatMap`). They are the texts of the commands
if none of these has a line break (`lines_batch`).
-/

namespace Scoreboard

namespace Command

/-- The text of a command that reads a score. -/
theorem text_getScore (player objective : String) :
    (getScore player objective).text = "scoreboard players get " ++ player ++ " " ++ objective := by
  have words : "scoreboard" ++ " " ++ "players" ++ " " ++ "get" ++ " " = "scoreboard players get " := by
    decide
  rw [← words]
  rfl

/-- The text of a command that lets players use a trigger. -/
theorem text_enableTrigger (name : String) :
    (enableTrigger name).text = "scoreboard players enable @a " ++ name := by
  have words : "scoreboard" ++ " " ++ "players" ++ " " ++ "enable" ++ " " ++ "@a" ++ " " =
      "scoreboard players enable @a " := by decide
  rw [← words]
  rfl

/-- The text of a command that makes a trigger. -/
theorem text_addTrigger (name : String) :
    (addTrigger name).text = "scoreboard objectives add " ++ name ++ " trigger" := by
  have words : "scoreboard" ++ " " ++ "objectives" ++ " " ++ "add" ++ " " =
      "scoreboard objectives add " := by decide
  have last : " trigger" = " " ++ "trigger" := by decide
  rw [← words, last, ← String.append_assoc]
  rfl

/-- The text of a command that removes an objective. -/
theorem text_removeObjective (name : String) :
    (removeObjective name).text = "scoreboard objectives remove " ++ name := by
  have words : "scoreboard" ++ " " ++ "objectives" ++ " " ++ "remove" ++ " " =
      "scoreboard objectives remove " := by decide
  rw [← words]
  rfl

/-- The text of a command that adds an objective. -/
theorem text_addObjective (name criterion display : String) :
    (addObjective name criterion display).text =
      "scoreboard objectives add " ++ name ++ " " ++ criterion ++ " " ++ display := by
  have words : "scoreboard" ++ " " ++ "objectives" ++ " " ++ "add" ++ " " =
      "scoreboard objectives add " := by decide
  rw [← words]
  rfl

/-! ### Lines of a text -/

/-- The lines of a text, as the console takes them. -/
def lines (text : String) : List String := (text.toList.splitOn '\n').map String.ofList

/-- A text without a line break is one line. -/
theorem lines_of_unbroken {text : String} (unbroken : '\n' ∉ text.toList) : lines text = [text] :=
  Text.pieces_of_notMem unbroken

/-- What stands before a text and has no line break stands before the first line of the text. -/
theorem lines_append {lead : String} (unbroken : '\n' ∉ lead.toList) (text : String) :
    lines (lead ++ text) = (lines text).modifyHead (lead ++ ·) := by
  -- the induction is on the lead, which has no place to split at
  have hsplit : ∀ cs : List Char, '\n' ∉ cs →
      (cs ++ text.toList).splitOn '\n' = (text.toList.splitOn '\n').modifyHead (cs ++ ·) := by
    intro cs hcs
    induction cs with
    | nil => exact (congrFun List.modifyHead_id _).symm
    | cons c cs ih =>
      rw [List.mem_cons, not_or] at hcs
      have hc : (c == '\n') = false := by simpa using Ne.symm hcs.1
      rw [List.cons_append, List.splitOn, List.splitOnP_cons_eq_if_modifyHead, hc, if_neg Bool.false_ne_true]
      rw [List.splitOn] at ih
      rw [ih hcs.2, List.modifyHead_modifyHead]
      rfl
  rw [lines, String.toList_append, hsplit _ unbroken, lines]
  cases text.toList.splitOn '\n' with
  | nil => rfl
  | cons first rest =>
    rw [List.modifyHead_cons, List.map_cons, List.map_cons, List.modifyHead_cons, String.ofList_append,
      String.ofList_toList]

/-- A text has one line more than it has line breaks. -/
theorem length_lines (text : String) : (lines text).length = text.toList.count '\n' + 1 := by
  rw [lines, List.length_map]
  induction text.toList with
  | nil => rfl
  | cons c cs ih =>
    rw [List.splitOn] at ih ⊢
    rw [List.splitOnP_cons_eq_if_modifyHead]
    by_cases hc : c = '\n'
    · subst hc
      simp [ih]
    · simp [hc, ih]

/-! ### Lines of a batch -/

/-- The lines of a batch are those of its commands, in order. -/
theorem lines_batch_eq_flatMap {cs : List Command} (ne : cs ≠ []) :
    lines (batch cs) = cs.flatMap fun c => lines c.text := by
  have hpieces : lines (batch cs) = (cs.map text).flatMap lines := Text.pieces_intercalate (by simpa using ne)
  rw [hpieces, List.flatMap_map]

/-- The lines of a batch are its commands, if none of them has a line break. -/
theorem lines_batch {cs : List Command} (ne : cs ≠ [])
    (unbroken : ∀ c ∈ cs, '\n' ∉ c.text.toList) : lines (batch cs) = cs.map text :=
  Text.pieces_intercalate_of_free (by simpa using ne) (List.forall_mem_map.mpr unbroken)

end Command

end Scoreboard

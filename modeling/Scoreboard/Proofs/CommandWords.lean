import Scoreboard.Proofs.Command
import Scoreboard.Proofs.ScoreReplies

/-!
# Commands told by their words

All that the console gets of a command is one text, and many texts begin alike. Main statement (`textsTell`): as long
as nothing that they name has a space, different commands have different texts, whatever display texts and counts they
have, and each command is read back from its text and from no other (`read?`).

A text is taken apart at its spaces. What a command names is then one piece, and so is the text of a count
(`space_notMem_repr`); the display text of a new objective may be any number of pieces, but stands last
(`pieces_text`). The first pieces tell what a command is about and what is done. Only triggers are added like
objectives, and their texts have a piece less.
-/

namespace Scoreboard

/-- The change that a word stands for. -/
def ScoreChange.ofWord? : String → Option ScoreChange
  | "set" => some .set
  | "add" => some .add
  | "remove" => some .remove
  | _ => none

/-- A word is read as the change that is written with it. -/
theorem ScoreChange.ofWord?_eq_some_iff {word : String} {change : ScoreChange} :
    ofWord? word = some change ↔ change.word = word := by
  constructor
  · intro h
    unfold ofWord? at h
    split at h <;> cases h <;> rfl
  · rintro rfl
    cases change <;> rfl

namespace Command

open Text

variable {c d : Command} {ps : List String}

/-- What a command names: objectives and their criteria, slots of the screen, and players. -/
def named : Command → List String
  | addObjective name criterion _ => [name, criterion]
  | removeObjective name => [name]
  | setDisplay slot name => [slot, name]
  | listObjectives => []
  | changeScore _ player name _ => [player, name]
  | getScore player name => [player, name]
  | listPlayers => []
  | addTrigger name => [name]
  | enableTrigger name => [name]

/-- Whether nothing that a command names has a space. A name may be empty. -/
def Worded (c : Command) : Prop := ∀ name ∈ c.named, ' ' ∉ name.toList

instance (c : Command) : Decidable c.Worded :=
  inferInstanceAs (Decidable (∀ name ∈ c.named, ' ' ∉ name.toList))

/-! ### The reader -/

/-- The count that a word is the text of. A numeral with leading zeros, or a sign before zero, is the text of none. -/
def count? (word : String) : Option Int64 :=
  ((Numeral.read? word.toList).bind fun (numeral, _) => numeral.toInt64?).filter (·.toInt.repr = word)

/-- The command about objectives that goes on with the given pieces. -/
def ofObjectiveParts? : List String → Option Command
  | ["list"] => some listObjectives
  | ["remove", name] => some (removeObjective name)
  | ["setdisplay", slot, name] => some (setDisplay slot name)
  | ["add", name, "trigger"] => some (addTrigger name)
  | "add" :: name :: criterion :: shown :: others =>
    some (addObjective name criterion (" ".intercalate (shown :: others)))
  | _ => none

/-- The command about players that goes on with the given pieces. -/
def ofPlayerParts? : List String → Option Command
  | ["list"] => some listPlayers
  | ["get", player, name] => some (getScore player name)
  | ["enable", "@a", name] => some (enableTrigger name)
  | [change, player, name, count] =>
    (ScoreChange.ofWord? change).bind fun change => (count? count).map (changeScore change player name)
  | _ => none

/-- The command whose text has the given pieces. -/
def ofParts? : List String → Option Command
  | "scoreboard" :: "objectives" :: ps => ofObjectiveParts? ps
  | "scoreboard" :: "players" :: ps => ofPlayerParts? ps
  | _ => none

/-- The command that a text is the text of. -/
def read? (text : String) : Option Command := ofParts? (pieces ' ' text)

/-! ### What is written is read -/

/-- A word is read as a number exactly if it is the way the number is written. -/
theorem count?_eq_some_iff {word : String} {count : Int64} :
    count? word = some count ↔ count.toInt.repr = word := by
  rw [count?, Option.filter_eq_some_iff, decide_eq_true_eq, and_iff_right_iff_imp]
  rintro rfl
  have htext : count.toInt.repr.toList = (Numeral.ofInt count.toInt).text ++ [] := by
    rw [List.append_nil, Numeral.text_ofInt]
    rfl
  have hread := Numeral.read?_eq_some_iff.mpr ⟨Numeral.isDecimal_ofInt count.toInt, htext, by simp⟩
  rw [hread, Option.bind_some]
  exact Numeral.toInt64?_eq_some_iff.mpr ⟨fun _ => Numeral.isDigit_of_mem_ofInt, (Numeral.signed_ofInt _).symm⟩

/-- No number is written with a space. -/
theorem space_notMem_repr (v : Int) : ' ' ∉ v.repr.toList := by
  have htext : v.repr.toList = (Numeral.ofInt v).text := (Numeral.text_ofInt v).symm
  have hdigits : ' ' ∉ (Numeral.ofInt v).digits := fun h => absurd (Numeral.isDigit_of_mem_ofInt h) (by decide)
  rw [htext, Numeral.text]
  split
  · exact List.not_mem_cons_of_ne_of_not_mem (by decide) hdigits
  · exact hdigits

theorem space_notMem_word (change : ScoreChange) : ' ' ∉ change.word.toList := by
  cases change <;> decide

/-- The words of a command, with the display text in pieces. -/
def parts : Command → List String
  | addObjective name criterion display =>
    ["scoreboard", "objectives", "add", name, criterion] ++ pieces ' ' display
  | c => c.words

/-- Of what names nothing with a space, only the display text comes in pieces. -/
theorem pieces_text (worded : c.Worded) : pieces ' ' c.text = c.parts := by
  have ne : c.words ≠ [] := by cases c <;> exact List.cons_ne_nil _ _
  have hpieces : pieces ' ' c.text = c.words.flatMap (pieces ' ') := pieces_intercalate ne
  rw [hpieces]
  cases c <;>
    simp_all [Worded, named, words, parts, pieces_of_notMem, space_notMem_repr, space_notMem_word]

/-- A command is read back from its parts. -/
theorem ofParts?_parts (c : Command) : ofParts? c.parts = some c := by
  cases c with
  | addObjective name criterion display =>
    obtain ⟨shown, others, hpieces⟩ := List.exists_cons_of_ne_nil (pieces_ne_nil ' ' display)
    have hdisplay : " ".intercalate (shown :: others) = display := by
      rw [← hpieces]
      exact intercalate_pieces ' ' display
    simp [parts, hpieces, ofParts?, ofObjectiveParts?, hdisplay]
  | changeScore change player name count =>
    have hchange := ScoreChange.ofWord?_eq_some_iff.mpr (Eq.refl change.word)
    have hcount := count?_eq_some_iff.mpr (Eq.refl count.toInt.repr)
    simp [parts, words, ofParts?, ofPlayerParts?, hchange, hcount]
  | _ => simp [parts, words, ofParts?, ofObjectiveParts?, ofPlayerParts?]

/-! ### What is read was written -/

/-- What is read as a command about objectives is written with just these parts. -/
theorem parts_of_ofObjectiveParts? (free : ∀ part ∈ ps, ' ' ∉ part.toList) (h : ofObjectiveParts? ps = some c) :
    c.Worded ∧ c.parts = "scoreboard" :: "objectives" :: ps := by
  unfold ofObjectiveParts? at h
  split at h <;> cases h
  case h_5.refl name criterion shown others =>
    -- the display text is joined from parts without spaces, so its pieces are these
    have hdisplay : pieces ' ' (" ".intercalate (shown :: others)) = shown :: others :=
      pieces_intercalate_of_free (List.cons_ne_nil shown others) fun part hpart => free part (by simp_all)
    simp_all [Worded, named, parts]
  all_goals simp_all [Worded, named, parts, words]

/-- What is read as a command about players is written with just these parts. -/
theorem parts_of_ofPlayerParts? (free : ∀ part ∈ ps, ' ' ∉ part.toList) (h : ofPlayerParts? ps = some c) :
    c.Worded ∧ c.parts = "scoreboard" :: "players" :: ps := by
  unfold ofPlayerParts? at h
  split at h
  case h_4 word player name count =>
    obtain ⟨change, hchange, h⟩ := Option.bind_eq_some_iff.mp h
    obtain ⟨n, hcount, rfl⟩ := Option.map_eq_some_iff.mp h
    rw [ScoreChange.ofWord?_eq_some_iff] at hchange
    rw [count?_eq_some_iff] at hcount
    simp_all [Worded, named, parts, words]
  case h_5 => cases h
  all_goals
    cases h
    simp_all [Worded, named, parts, words]

/-- Parts without spaces are read as the command that is written with them. -/
theorem ofParts?_eq_some_iff (free : ∀ part ∈ ps, ' ' ∉ part.toList) :
    ofParts? ps = some c ↔ c.Worded ∧ c.parts = ps := by
  constructor
  · intro h
    unfold ofParts? at h
    split at h
    · exact parts_of_ofObjectiveParts? (by simp_all) h
    · exact parts_of_ofPlayerParts? (by simp_all) h
    · cases h
  · rintro ⟨-, rfl⟩
    exact ofParts?_parts c

/-- What is read from a text is what names nothing with a space and has this text. -/
theorem read?_eq_some_iff {text : String} : read? text = some c ↔ c.Worded ∧ c.text = text := by
  rw [read?, ofParts?_eq_some_iff fun _ => notMem_of_mem_pieces, and_congr_right_iff]
  intro worded
  rw [← pieces_text worded]
  constructor
  · intro h
    rw [← intercalate_pieces ' ' c.text, h, intercalate_pieces]
  · exact congrArg (pieces ' ')

/-- Commands that name nothing with a space are told by their texts, and each is read from its text alone. -/
theorem textsTell (hc : c.Worded) (hd : d.Worded) :
    (c.text = d.text ↔ c = d) ∧ ∀ text, read? text = some c ↔ c.text = text := by
  constructor
  · constructor
    · intro h
      have hread : read? d.text = some c := read?_eq_some_iff.mpr ⟨hc, h⟩
      have hread' : read? d.text = some d := read?_eq_some_iff.mpr ⟨hd, rfl⟩
      exact Option.some.inj (hread.symm.trans hread')
    · exact congrArg text
  · intro text
    rw [read?_eq_some_iff, and_iff_right hc]

/-- The text of an objective with the criterion of a trigger has a space more than that of the trigger, even if
nothing is to be shown. -/
theorem textsTell_of_lookalikes :
    (addObjective "kills" "trigger" "").Worded ∧ (addTrigger "kills").Worded ∧
      (addObjective "kills" "trigger" "").text ≠ (addTrigger "kills").text ∧
      read? "scoreboard objectives add kills trigger " = some (addObjective "kills" "trigger" "") := by
  have hc : (addObjective "kills" "trigger" "").Worded := by decide
  have hd : (addTrigger "kills").Worded := by decide
  have htext : (addObjective "kills" "trigger" "").text = "scoreboard objectives add kills trigger " := by decide
  obtain ⟨tells, reads⟩ := textsTell hc hd
  exact ⟨hc, hd, mt tells.mp (by decide), (reads _).mpr htext⟩

-- the spaces of a display text are its own, also where it begins and ends
example : read? "scoreboard objectives add kills dummy  This  week " =
    some (addObjective "kills" "dummy" " This  week ") := by
  decide +kernel

end Command

end Scoreboard

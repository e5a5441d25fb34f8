import Mathlib.Algebra.Group.Int.Defs
import Scoreboard.Proofs.Text
import Scoreboard.Reply

/-!
# Scores in replies

A score is read where it is announced first. Main statement, for every reply (`scoreRead`): where no score is
announced on the first line, none is read; else the first numeral announced decides, with all the digits it has,
whatever is announced after it. So a score that is written behind a player is read back, with any text after it.

The search passes over the places before the first one (`scoreNumeral?_eq_some_iff`); that the numeral is the
longest one there is what `Numeral.read?_eq_some_iff` says.
-/

namespace Scoreboard

open Text

namespace Reply

/-- Whether a text begins with a numeral: with a digit, or with a minus sign and a digit. -/
inductive BeginsNumeral : List Char → Prop where
  | digit {c : Char} {cs : List Char} (h : isDigit c) : BeginsNumeral (c :: cs)
  | minus {c : Char} {cs : List Char} (h : isDigit c) : BeginsNumeral ('-' :: c :: cs)

/-- Whether a score is announced at a place of a text: the place is on the first line, and ` has ` stands there with
a numeral right behind it. -/
structure AnnouncedAt (cs : List Char) (n : Nat) : Prop where
  line : '\n' ∉ cs.take n
  numeral : ∃ rest, cs.drop n = " has ".toList ++ rest ∧ BeginsNumeral rest

/-- How the score in a reply is found. -/
structure ScoreRead (reply : String) : Prop where
  /-- Where none is announced, there is none. -/
  unannounced : (∀ n, ¬AnnouncedAt reply.toList n) → score? reply = none
  /-- The first one announced counts, with all the digits that stand there: it is a score if they are ASCII digits
  and it is a 64-bit integer, and else there is none. -/
  announced : ∀ n, AnnouncedAt reply.toList n → (∀ m < n, ¬AnnouncedAt reply.toList m) →
    ∃ (numeral : Numeral) (rest : List Char),
      reply.toList.drop n = " has ".toList ++ numeral.text ++ rest ∧ numeral.IsDecimal ∧
      (∀ c ∈ rest.head?, ¬isDigit c) ∧
      (∀ v, score? reply = some v ↔ (∀ c ∈ numeral.digits, c.isDigit) ∧ v.toInt = numeral.signed) ∧
      (score? reply = none ↔
        ¬((∀ c ∈ numeral.digits, c.isDigit) ∧ -2 ^ 63 ≤ numeral.signed ∧ numeral.signed ≤ 2 ^ 63 - 1))
  /-- A score that is written behind a player without white space is read back, whatever follows it. -/
  written : ∀ (player rest : String) (v : Int64), reply = player ++ " has " ++ toString v.toInt ++ rest →
    (∀ c ∈ player.toList, ¬isBlank c) → (∀ c ∈ rest.toList.head?, ¬isDigit c) → score? reply = some v

end Reply

/-! ### Numerals -/

namespace Text.Numeral

/-- A numeral is a 64-bit integer if it has ASCII digits and the right value. -/
theorem toInt64?_eq_some_iff {n : Numeral} {v : Int64} :
    n.toInt64? = some v ↔ (∀ c ∈ n.digits, c.isDigit) ∧ v.toInt = n.signed := by
  by_cases ascii : ∀ c ∈ n.digits, c.isDigit
  · rw [toInt64?, value?_of_ascii ascii, Option.bind_some]
    constructor
    · intro h
      split at h
      · rename_i exact
        cases h
        exact ⟨ascii, exact⟩
      · cases h
    · rintro ⟨-, hv⟩
      rw [← hv, Int64.ofInt_toInt, if_pos rfl]
  · rw [toInt64?, value?_of_not_ascii ascii]
    exact iff_of_false (by simp) fun h => ascii h.1

/-- A numeral is no score just if it has foreign digits or is out of the range of 64 bits. -/
theorem toInt64?_eq_none_iff {n : Numeral} : n.toInt64? = none ↔
    ¬((∀ c ∈ n.digits, c.isDigit) ∧ -2 ^ 63 ≤ n.signed ∧ n.signed ≤ 2 ^ 63 - 1) := by
  constructor
  · rintro hnone ⟨ascii, least, greatest⟩
    have hvalue : (Int64.ofInt n.signed).toInt = n.signed := Int64.toInt_ofInt_of_le least (by omega)
    rw [toInt64?_eq_some_iff.mpr ⟨ascii, hvalue⟩] at hnone
    cases hnone
  · intro beyond
    rcases h : n.toInt64? with _ | v
    · rfl
    · obtain ⟨ascii, hv⟩ := toInt64?_eq_some_iff.mp h
      have least := v.le_toInt
      have greatest := v.toInt_lt
      exact absurd ⟨ascii, by omega, by omega⟩ beyond

end Text.Numeral

namespace Reply

variable {cs rest : List Char} {numeral : Numeral}

/-- A text begins with a numeral just if one can be read off it. -/
theorem beginsNumeral_iff : BeginsNumeral cs ↔ (Numeral.read? cs).isSome := by
  constructor
  · intro begins
    cases begins with
    | @digit c cs h =>
      have hminus : c ≠ '-' := by
        rintro rfl
        revert h
        decide
      simp [Numeral.read?, Numeral.readDigits?, hminus, h]
    | minus h => simp [Numeral.read?, Numeral.readDigits?, h]
  · intro h
    obtain ⟨⟨numeral, rest⟩, hread⟩ := Option.isSome_iff_exists.mp h
    obtain ⟨decimal, rfl, -⟩ := Numeral.read?_eq_some_iff.mp hread
    obtain ⟨d, digits, hdigits⟩ := List.exists_cons_of_ne_nil decimal.nonempty
    have hd : isDigit d := decimal.digits d (by simp [hdigits])
    rw [Numeral.text, hdigits]
    split
    · exact .minus hd
    · exact .digit hd

/-! ### The place of the score -/

/-- A score is announced here just if the word is followed by a numeral, which takes all the digits there are. -/
theorem scoreAt?_eq_some_iff : scoreAt? cs = some numeral ↔
    ∃ rest, cs = " has ".toList ++ numeral.text ++ rest ∧ numeral.IsDecimal ∧ ∀ c ∈ rest.head?, ¬isDigit c := by
  simp only [scoreAt?, Option.bind_eq_some_iff, dropLead?_eq_some_iff, Option.map_eq_some_iff, Prod.exists,
    Numeral.read?_eq_some_iff]
  constructor
  · rintro ⟨_, rfl, _, rest, ⟨decimal, rfl, stops⟩, rfl⟩
    exact ⟨rest, (List.append_assoc _ _ _).symm, decimal, stops⟩
  · rintro ⟨rest, rfl, decimal, stops⟩
    exact ⟨_, List.append_assoc _ _ _, numeral, rest, ⟨decimal, rfl, stops⟩, rfl⟩

/-- Something is announced here just if the word is followed by the beginning of a numeral. -/
theorem isSome_scoreAt?_iff :
    (scoreAt? cs).isSome ↔ ∃ rest, cs = " has ".toList ++ rest ∧ BeginsNumeral rest := by
  simp only [scoreAt?, Option.isSome_bind, Option.any_eq_true, dropLead?_eq_some_iff, Option.isSome_map,
    beginsNumeral_iff]

/-- A score is announced at a place just if that is in the first line and one can be read there. -/
theorem announcedAt_iff {n : Nat} : AnnouncedAt cs n ↔ '\n' ∉ cs.take n ∧ (scoreAt? (cs.drop n)).isSome := by
  rw [isSome_scoreAt?_iff]
  exact ⟨fun h => ⟨h.line, h.numeral⟩, fun h => ⟨h.1, h.2⟩⟩

/-- The numeral found is the one at the first place that has one. -/
theorem scoreNumeral?_eq_some_iff : scoreNumeral? cs = some numeral ↔
    ∃ n, '\n' ∉ cs.take n ∧ scoreAt? (cs.drop n) = some numeral ∧ ∀ m < n, scoreAt? (cs.drop m) = none := by
  -- the first place is this one, or the first one of the rest of the line
  induction cs with
  | nil => simp [scoreNumeral?, scoreAt?, dropLead?]
  | cons c cs ih =>
    rw [scoreNumeral?]
    rcases here : scoreAt? (c :: cs) with _ | first
    · rw [Option.orElse_eq_orElse, Option.orElse_eq_or, Option.none_or]
      constructor
      · intro h
        split at h
        · cases h
        · rename_i hc
          obtain ⟨n, line, found, before⟩ := ih.mp h
          refine ⟨n + 1, by simp [line, Ne.symm hc], found, fun m hm => ?_⟩
          cases m with
          | zero => exact here
          | succ m => exact before m (Nat.lt_of_succ_lt_succ hm)
      · rintro ⟨n, line, found, before⟩
        cases n with
        | zero =>
          rw [List.drop_zero, here] at found
          cases found
        | succ n =>
          rw [List.take_succ_cons, List.mem_cons, not_or] at line
          rw [if_neg (Ne.symm line.1)]
          exact ih.mpr ⟨n, line.2, found, fun m hm => before (m + 1) (Nat.succ_lt_succ hm)⟩
    · rw [Option.orElse_eq_orElse, Option.orElse_eq_or, Option.some_or]
      constructor
      · intro h
        cases h
        exact ⟨0, List.not_mem_nil, here, fun m hm => absurd hm (Nat.not_lt_zero m)⟩
      · rintro ⟨n, -, found, before⟩
        cases n with
        | zero => rwa [List.drop_zero, here] at found
        | succ n =>
          have passed : scoreAt? (c :: cs) = none := before 0 (Nat.succ_pos n)
          rw [here] at passed
          cases passed

theorem scoreAt?_of_ne_space {c : Char} (h : c ≠ ' ') (cs : List Char) : scoreAt? (c :: cs) = none := by
  have hlead : dropLead? " has ".toList (c :: cs) = none := if_neg (Ne.symm h)
  rw [scoreAt?, hlead, Option.bind_none]

/-- In every reply, the first score announced is the one that is read. -/
theorem scoreRead (reply : String) : ScoreRead reply where
  unannounced h := by
    rcases found : scoreNumeral? reply.toList with _ | numeral
    · rw [score?, found, Option.bind_none]
    · obtain ⟨n, line, here, -⟩ := scoreNumeral?_eq_some_iff.mp found
      have announced : AnnouncedAt reply.toList n := announcedAt_iff.mpr ⟨line, by rw [here]; rfl⟩
      exact absurd announced (h n)
  announced n announced first := by
    obtain ⟨line, here⟩ := announcedAt_iff.mp announced
    obtain ⟨numeral, here⟩ := Option.isSome_iff_exists.mp here
    obtain ⟨rest, hrest, decimal, stops⟩ := scoreAt?_eq_some_iff.mp here
    have before : ∀ m < n, scoreAt? (reply.toList.drop m) = none := by
      intro m hm
      have hline : '\n' ∉ reply.toList.take m := fun h => line (List.take_subset_take_left _ (Nat.le_of_lt hm) h)
      rw [← Option.not_isSome_iff_eq_none]
      exact fun h => first m hm (announcedAt_iff.mpr ⟨hline, h⟩)
    have found : score? reply = numeral.toInt64? := by
      rw [score?, scoreNumeral?_eq_some_iff.mpr ⟨n, line, here, before⟩, Option.bind_some]
    rw [found]
    exact ⟨numeral, rest, hrest, decimal, stops, fun _ => Numeral.toInt64?_eq_some_iff,
      Numeral.toInt64?_eq_none_iff⟩
  -- no character of the player's name is a space, so the announcement written is the first one
  written player rest v hreply plain stops := by
    let numeral := Numeral.ofInt v.toInt
    let announcement := " has ".toList ++ numeral.text ++ rest.toList
    have htext : reply.toList = player.toList ++ announcement := by
      simp [hreply, announcement, numeral, Numeral.text_ofInt]
    have here : scoreAt? (reply.toList.drop player.toList.length) = some numeral := by
      rw [htext, List.drop_left]
      exact scoreAt?_eq_some_iff.mpr ⟨_, rfl, Numeral.isDecimal_ofInt _, stops⟩
    have line : '\n' ∉ reply.toList.take player.toList.length := by
      rw [htext, List.take_left]
      exact fun h => plain _ h rfl
    have before : ∀ m < player.toList.length, scoreAt? (reply.toList.drop m) = none := by
      intro m hm
      have hspace : player.toList[m] ≠ ' ' := fun h => plain _ (List.getElem_mem hm) (by rw [h]; rfl)
      rw [htext, List.drop_append_of_le_length (Nat.le_of_lt hm), List.drop_eq_getElem_cons hm]
      exact scoreAt?_of_ne_space hspace _
    rw [score?, scoreNumeral?_eq_some_iff.mpr ⟨_, line, here, before⟩, Option.bind_some]
    exact Numeral.toInt64?_eq_some_iff.mpr ⟨fun _ => Numeral.isDigit_of_mem_ofInt, (Numeral.signed_ofInt _).symm⟩

-- a minus sign without a digit is passed over; what follows the numeral is not looked at
example : score? "Alice has -x has -9223372036854775808, Bob has 5" = some (-9223372036854775808) := by
  decide +kernel

end Reply

end Scoreboard

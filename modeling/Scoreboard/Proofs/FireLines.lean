import Scoreboard.Fire
import Scoreboard.Proofs.Text

/-!
# The grammar of fire lines

A fire line is a log header, a bracketed tag, the fire itself and anything after it, the first two of which
may be missing (`FireLine.Written`). Main statement (`accepts_written`): a line is read just if it is one, all
ways to take it apart give the same player, name and numeral, and the fire is that player, the name without
white space around it, and the numeral held to the 32-bit integers (`FireLine.Tells`).

Bracket groups hold no closing bracket, so where one ends is settled; what follows it and an optional space
settles what the group was: a colon ends a header, an opening bracket goes on with the header or the fire, and
after the inner brackets of the fire there is a parenthesis or a closing bracket (`Body.afterGroup?`). For the
same reason no line that goes on with what a player says is a fire line, whatever is said (`read?_of_chat`).
-/

namespace Scoreboard

open Text

namespace FireLine

/-! ### The grammar -/

/-- A bracket group around a text without a closing bracket. -/
def Group (inner text : List Char) : Prop := ']' ∉ inner ∧ text = '[' :: (inner ++ [']'])

/-- One or two bracket groups and a colon, with optional spaces after each. -/
inductive Header : List Char → Prop where
  | one {inner group gap last : List Char} (isGroup : Group inner group) (isGap : Gap gap)
      (isLast : Gap last) : Header (group ++ gap ++ ':' :: last)
  | two {inner group gap inner' group' gap' last : List Char} (isGroup : Group inner group)
      (isGap : Gap gap) (isGroup' : Group inner' group') (isGap' : Gap gap') (isLast : Gap last) :
      Header (group ++ gap ++ (group' ++ gap' ++ ':' :: last))

/-- A bracket group that is not empty, with an optional space after it. -/
inductive Tag : List Char → Prop where
  | mk {inner group gap : List Char} (isGroup : Group inner group) (nonempty : inner ≠ [])
      (isGap : Gap gap) : Tag (group ++ gap)

/-- The note on the value, if there is one. -/
inductive Amount : Option Numeral → List Char → Prop where
  | none : Amount none []
  | set {n : Numeral} (decimal : n.IsDecimal) :
      Amount (some n) ("(set value to ".toList ++ n.text ++ ")".toList)
  | added {n : Numeral} (decimal : n.IsDecimal) :
      Amount (some n) ("(added ".toList ++ n.text ++ " to value)".toList)

/-- The fire itself. -/
inductive Body : FireLine → List Char → Prop where
  | mk {player trigger gap₁ gap₂ group gap₃ note : List Char} {amount : Option Numeral}
      (nonempty : player ≠ []) (word : ∀ c ∈ player, isWord c) (isGap₁ : Gap gap₁) (isGap₂ : Gap gap₂)
      (isGroup : Group trigger group) (isGap₃ : Gap gap₃) (isNote : Amount amount note) :
      Body ⟨player, trigger, amount⟩ ('[' :: (player ++ ':' :: (gap₁ ++ ("Triggered".toList ++
        (gap₂ ++ (group ++ (gap₃ ++ (note ++ [']']))))))))

/-- A fire after a tag, if there is one, with anything after it. -/
def Tagged (l : FireLine) (cs : List Char) : Prop :=
  ∃ tag body rest, cs = tag ++ (body ++ rest) ∧ (tag = [] ∨ Tag tag) ∧ Body l body

/-- A fire line: a header, a tag, a fire and anything after it. -/
def Written (l : FireLine) (line : List Char) : Prop :=
  ∃ header tag body rest, line = header ++ (tag ++ (body ++ rest)) ∧ (header = [] ∨ Header header) ∧
    (tag = [] ∨ Tag tag) ∧ Body l body

/-- Whether a text goes on like the end of a fire. -/
def Closes (cs : List Char) : Prop := cs.head? = some '(' ∨ cs.head? = some ']'

/-- A line that goes on with what a player says. -/
def Chat (line : List Char) : Prop :=
  ∃ header tag said, line = header ++ (tag ++ '<' :: said) ∧ Header header ∧ (tag = [] ∨ Tag tag)

/-- The fire that a fire line tells of. -/
structure Tells (l : FireLine) (fire : Fire) : Prop where
  player : fire.player.toList = l.player
  trigger : Stripped isBlank l.trigger fire.trigger.toList
  nothing : l.amount = none → fire.value = 0
  /-- A value in ASCII digits, of any length, is held to the 32-bit integers. -/
  ascii : ∀ n ∈ l.amount, (∀ c ∈ n.digits, c.isDigit) →
    fire.value.toInt = max (-2147483648) (min 2147483647 n.signed)
  /-- With other digits it counts as beyond the bound on its side of zero. -/
  foreign : ∀ n ∈ l.amount, (¬∀ c ∈ n.digits, c.isDigit) →
    fire.value = if n.negative then Int32.minValue else Int32.maxValue

variable {l : FireLine} {cs rest inner text tag header : List Char}

/-! ### Groups -/

/-- A bracketed group is read at the start of a text exactly if one stands there. -/
theorem group?_eq_some_iff : group? cs = some (inner, rest) ↔ ∃ text, Group inner text ∧ cs = text ++ rest := by
  unfold group?
  split
  · rename_i cs
    rw [cutAt?_eq_some_iff]
    constructor
    · rintro ⟨hinner, rfl⟩
      exact ⟨_, ⟨hinner, rfl⟩, by simp⟩
    · rintro ⟨_, ⟨hinner, rfl⟩, hcs⟩
      exact ⟨hinner, by simpa using hcs⟩
  · rename_i hbracket
    constructor
    · intro h
      cases h
    · rintro ⟨_, ⟨_, rfl⟩, rfl⟩
      exact absurd rfl (hbracket _)

theorem Group.append (group : Group inner text) (rest : List Char) :
    group? (text ++ rest) = some (inner, rest) :=
  group?_eq_some_iff.mpr ⟨text, group, rfl⟩

/-- After a group and a gap the rest is left, unless it goes on with a space. -/
theorem Group.afterGroup? (group : Group inner text) {gap : List Char} (isGap : Gap gap)
    (hrest : rest.head? ≠ some ' ') : afterGroup? (text ++ gap ++ rest) = some rest := by
  rw [FireLine.afterGroup?, List.append_assoc, group.append, Option.map_some, dropSpace_append isGap hrest]

theorem afterGroup?_eq_none (h : cs.head? ≠ some '[') : afterGroup? cs = none := by
  unfold afterGroup? group?
  split
  · simp at h
  · rfl

theorem afterColon?_eq_none (h : cs.head? ≠ some ':') : afterColon? cs = none := by
  unfold afterColon?
  split
  · simp at h
  · rfl

theorem afterColon?_append {last : List Char} (isLast : Gap last) (hrest : rest.head? ≠ some ' ') :
    afterColon? (':' :: (last ++ rest)) = some rest := by
  rw [afterColon?, dropSpace_append isLast hrest]

/-! ### The fire itself -/

/-- A number is read between two texts exactly if it stands there, where no more digits could follow. -/
theorem between?_eq_some_iff {before after : List Char} {n : Numeral}
    (stops : ∀ c ∈ (after ++ rest).head?, ¬isDigit c) :
    between? before after cs = some (n, rest) ↔
      n.IsDecimal ∧ cs = before ++ n.text ++ after ++ rest := by
  unfold between?
  constructor
  · intro h
    obtain ⟨left, hbefore, h⟩ := Option.bind_eq_some_iff.mp h
    obtain ⟨⟨m, left'⟩, hread, h⟩ := Option.bind_eq_some_iff.mp h
    obtain ⟨left'', hafter, h⟩ := Option.bind_eq_some_iff.mp h
    cases h
    obtain rfl := dropLead?_eq_some_iff.mp hbefore
    obtain ⟨decimal, rfl, -⟩ := Numeral.read?_eq_some_iff.mp hread
    obtain rfl := dropLead?_eq_some_iff.mp hafter
    exact ⟨decimal, by simp⟩
  · rintro ⟨decimal, rfl⟩
    have hread : Numeral.read? (n.text ++ (after ++ rest)) = some (n, after ++ rest) :=
      Numeral.read?_eq_some_iff.mpr ⟨decimal, rfl, stops⟩
    simp [hread]

/-- The end of a fire is the note on its value and a closing bracket. -/
theorem close?_eq_some_iff {amount : Option Numeral} :
    close? cs = some amount ↔ ∃ note rest, Amount amount note ∧ cs = note ++ ']' :: rest := by
  -- after the number comes a parenthesis or a space, which is no digit
  have stops : ∀ (after : String) (rest : List Char), after = ")" ∨ after = " to value)" →
      ∀ c ∈ (after.toList ++ rest).head?, ¬isDigit c := by
    rintro after rest (rfl | rfl) c hc
    · cases hc
      decide
    · cases hc
      decide
  constructor
  · intro h
    unfold close? at h
    split at h
    · rename_i n rest hamount
      cases h
      rw [amount?, Option.orElse_eq_orElse, Option.orElse_eq_or] at hamount
      -- the amount is set or added, and the first way goes before the other
      obtain hset | ⟨-, hadded⟩ := Option.or_eq_some_iff.mp hamount
      · obtain ⟨decimal, rfl⟩ := (between?_eq_some_iff (stops ")" _ (.inl rfl))).mp hset
        exact ⟨_, rest, .set decimal, rfl⟩
      · obtain ⟨decimal, rfl⟩ := (between?_eq_some_iff (stops " to value)" _ (.inr rfl))).mp hadded
        exact ⟨_, rest, .added decimal, rfl⟩
    · split at h
      · rename_i hclose
        cases h
        obtain ⟨rest, rfl⟩ := List.head?_eq_some_iff.mp hclose
        exact ⟨[], rest, .none, rfl⟩
      · cases h
  · rintro ⟨note, rest, isNote, rfl⟩
    cases isNote with
    | none => rfl
    | @set n decimal =>
      have hset : between? "(set value to ".toList ")".toList
          ("(set value to ".toList ++ n.text ++ ")".toList ++ ']' :: rest) = some (n, ']' :: rest) :=
        (between?_eq_some_iff (stops ")" _ (.inl rfl))).mpr ⟨decimal, rfl⟩
      simp only [close?, amount?, hset]
      rfl
    | @added n decimal =>
      have hset : between? "(set value to ".toList ")".toList
          ("(added ".toList ++ n.text ++ " to value)".toList ++ ']' :: rest) = none := rfl
      have hadded : between? "(added ".toList " to value)".toList
          ("(added ".toList ++ n.text ++ " to value)".toList ++ ']' :: rest) = some (n, ']' :: rest) :=
        (between?_eq_some_iff (stops " to value)" _ (.inr rfl))).mpr ⟨decimal, rfl⟩
      simp only [close?, amount?, hset, hadded]
      rfl

/-- A player's name goes up to the colon. -/
theorem takeWhile_isWord {player : List Char} (word : ∀ c ∈ player, isWord c) (rest : List Char) :
    (player ++ ':' :: rest).takeWhile isWord = player ∧
      (player ++ ':' :: rest).dropWhile isWord = ':' :: rest := by
  have stops : ∀ c ∈ (':' :: rest).head?, ¬isWord c := by
    intro c hc
    cases hc
    decide
  exact ⟨takeWhile_append_of_stops word stops, dropWhile_append_of_stops word stops⟩

/-- The steps in which a fire is read. -/
theorem body?_cons_eq_some_iff : body? ('[' :: cs) = some l ↔
    cs.takeWhile isWord = l.player ∧ l.player ≠ [] ∧ ∃ r₁ r₂ r₃,
      afterColon? (cs.dropWhile isWord) = some r₁ ∧ dropLead? "Triggered".toList r₁ = some r₂ ∧
        group? (dropSpace r₂) = some (l.trigger, r₃) ∧ close? (dropSpace r₃) = some l.amount := by
  obtain ⟨player, trigger, amount⟩ := l
  simp only [body?]
  -- the reader goes from part to part and fails where one is missing
  constructor
  · intro h
    split at h
    · cases h
    · rename_i nonempty
      obtain ⟨r₁, hcolon, h⟩ := Option.bind_eq_some_iff.mp h
      obtain ⟨r₂, hword, h⟩ := Option.bind_eq_some_iff.mp h
      obtain ⟨⟨_, r₃⟩, hgroup, h⟩ := Option.bind_eq_some_iff.mp h
      obtain ⟨_, hclose, h⟩ := Option.bind_eq_some_iff.mp h
      cases h
      exact ⟨rfl, nonempty, r₁, r₂, r₃, hcolon, hword, hgroup, hclose⟩
  · rintro ⟨rfl, nonempty, r₁, r₂, r₃, hcolon, hword, hgroup, hclose⟩
    rw [if_neg nonempty]
    simp only [hcolon, hword, hgroup, hclose, Option.bind_eq_bind, Option.bind_some]
    rfl

/-- A colon that has been passed stood there, with a gap behind it. -/
theorem afterColon?_eq_some (h : afterColon? cs = some rest) :
    ∃ last, Gap last ∧ cs = ':' :: (last ++ rest) := by
  unfold afterColon? at h
  split at h
  · rename_i cs
    cases h
    obtain ⟨last, isLast, hcs⟩ := exists_gap cs
    exact ⟨last, isLast, congrArg _ hcs⟩
  · cases h

/-- What follows a colon, a bracket or a word does not begin with a space that would be passed over. -/
theorem head?_append_ne {c : Char} (h : cs.head? = some c) (hc : c ≠ ' ') (rest : List Char) :
    (cs ++ rest).head? ≠ some ' ' := by
  rw [List.head?_append, h]
  simpa using hc

theorem Group.head? (group : Group inner text) : text.head? = some '[' := by
  rw [group.2]
  rfl

theorem Closes.head?_ne (closes : Closes cs) {c : Char} (hopen : c ≠ '(') (hclose : c ≠ ']') :
    cs.head? ≠ some c := by
  obtain h | h := closes <;> rw [h]
  · simpa using hopen.symm
  · simpa using hclose.symm

/-- A note about the amount and the last bracket close a fire. -/
theorem Amount.closes {amount : Option Numeral} {note : List Char} (isNote : Amount amount note)
    (rest : List Char) : Closes (note ++ ']' :: rest) := by
  cases isNote with
  | none => exact .inr rfl
  | set _ => exact .inl rfl
  | added _ => exact .inl rfl

/-- A fire is read just if it stands at the front. -/
theorem body?_eq_some_iff : body? cs = some l ↔ ∃ body rest, cs = body ++ rest ∧ Body l body := by
  constructor
  · intro h
    unfold body? at h
    split at h
    · rename_i cs
      obtain ⟨hplayer, nonempty, r₁, r₂, r₃, hcolon, hword, hgroup, hclose⟩ := body?_cons_eq_some_iff.mp h
      obtain ⟨gap₁, isGap₁, hcolon⟩ := afterColon?_eq_some hcolon
      obtain rfl := dropLead?_eq_some_iff.mp hword
      obtain ⟨gap₂, isGap₂, hr₂⟩ := exists_gap r₂
      obtain ⟨group, isGroup, hgroup⟩ := group?_eq_some_iff.mp hgroup
      obtain ⟨gap₃, isGap₃, hr₃⟩ := exists_gap r₃
      obtain ⟨note, rest, isNote, hclose⟩ := close?_eq_some_iff.mp hclose
      have word : ∀ c ∈ l.player, isWord c := by
        rw [← hplayer]
        exact List.all_eq_true.mp List.all_takeWhile
      refine ⟨_, rest, ?_, .mk nonempty word isGap₁ isGap₂ isGroup isGap₃ isNote⟩
      rw [← List.takeWhile_append_dropWhile (p := isWord) (l := cs), hplayer, hcolon, hr₂, hgroup, hr₃, hclose]
      simp
    · cases h
  · rintro ⟨_, rest, rfl, @⟨player, trigger, gap₁, gap₂, group, gap₃, note, amount, nonempty, word,
      isGap₁, isGap₂, isGroup, isGap₃, isNote⟩⟩
    -- the parts are put together from the left, and are read from the left
    have hassoc : '[' :: (player ++ ':' :: (gap₁ ++ ("Triggered".toList ++
        (gap₂ ++ (group ++ (gap₃ ++ (note ++ [']']))))))) ++ rest =
          '[' :: (player ++ ':' :: (gap₁ ++ ("Triggered".toList ++
            (gap₂ ++ (group ++ (gap₃ ++ (note ++ ']' :: rest))))))) := by simp
    obtain ⟨htake, hdrop⟩ := takeWhile_isWord word (gap₁ ++ ("Triggered".toList ++
      (gap₂ ++ (group ++ (gap₃ ++ (note ++ ']' :: rest))))))
    have hclose := (isNote.closes rest).head?_ne (c := ' ') (by decide) (by decide)
    rw [hassoc, body?_cons_eq_some_iff, htake, hdrop]
    refine ⟨rfl, nonempty, _, gap₂ ++ (group ++ (gap₃ ++ (note ++ ']' :: rest))), gap₃ ++ (note ++ ']' :: rest),
      afterColon?_append isGap₁ (by simp), dropLead?_append _ _, ?_, ?_⟩
    · rw [dropSpace_append isGap₂ (head?_append_ne isGroup.head? (by decide) _)]
      exact isGroup.append _
    · rw [dropSpace_append isGap₃ hclose]
      exact close?_eq_some_iff.mpr ⟨note, rest, isNote, rfl⟩

theorem body?_eq_none (h : cs.head? ≠ some '[') : body? cs = none := by
  unfold body?
  split
  · simp at h
  · rfl

theorem Body.head? {body : List Char} (isBody : Body l body) : body.head? = some '[' := by
  cases isBody
  rfl

/-- The first bracket group of a fire ends with the trigger's name, and what follows is the end of the fire. -/
theorem Body.afterGroup? {body : List Char} (isBody : Body l body) (rest : List Char) :
    ∃ inner after, FireLine.group? (body ++ rest) = some (inner, after) ∧ Closes (dropSpace after) := by
  obtain @⟨player, trigger, gap₁, gap₂, group, gap₃, note, amount, nonempty, word, isGap₁, isGap₂, isGroup,
    isGap₃, isNote⟩ := isBody
  obtain ⟨htrigger, rfl⟩ := isGroup
  have hplayer : ']' ∉ player := by
    intro hmem
    exact absurd (word _ hmem) (by decide)
  have hgap : ∀ {gap : List Char}, Gap gap → ']' ∉ gap := by
    rintro gap (rfl | rfl) <;> decide
  have hcloses := isNote.closes rest
  refine ⟨player ++ ':' :: (gap₁ ++ ("Triggered".toList ++ (gap₂ ++ '[' :: trigger))),
    gap₃ ++ (note ++ ']' :: rest), group?_eq_some_iff.mpr ⟨_, ⟨?_, rfl⟩, by simp⟩, ?_⟩
  · simp [hplayer, hgap isGap₁, hgap isGap₂, htrigger]
  · rwa [dropSpace_append isGap₃ (hcloses.head?_ne (by decide) (by decide))]

/-! ### The tag and the header -/

theorem Tag.head? (isTag : Tag tag) : tag.head? = some '[' := by
  obtain ⟨isGroup, -, -⟩ := isTag
  rw [List.head?_append, isGroup.head?]
  rfl

/-- What can stand after a tag: the fire, with the tag or without it. -/
theorem findSome?_afterTag_eq_some_iff : (afterTag cs).findSome? body? = some l ↔ Tagged l cs := by
  constructor
  · intro h
    unfold afterTag at h
    -- a first group is taken for a tag if a fire comes after it, and else for the fire itself
    split at h
    · rename_i c inner after hgroup
      rw [List.findSome?_cons] at h
      obtain ⟨group, isGroup, rfl⟩ := group?_eq_some_iff.mp hgroup
      obtain ⟨gap, isGap, hafter⟩ := exists_gap after
      split at h
      · rename_i l' hbody
        cases h
        obtain ⟨body, rest, hrest, isBody⟩ := body?_eq_some_iff.mp hbody
        exact ⟨group ++ gap, body, rest, by rw [List.append_assoc, ← hrest, ← hafter],
          .inr (.mk isGroup (by simp) isGap), isBody⟩
      · rw [List.findSome?_singleton] at h
        obtain ⟨body, rest, hrest, isBody⟩ := body?_eq_some_iff.mp h
        exact ⟨[], body, rest, hrest, .inl rfl, isBody⟩
    · rw [List.findSome?_singleton] at h
      obtain ⟨body, rest, hrest, isBody⟩ := body?_eq_some_iff.mp h
      exact ⟨[], body, rest, hrest, .inl rfl, isBody⟩
  · rintro ⟨tag, body, rest, rfl, rfl | ⟨isGroup, nonempty, isGap⟩, isBody⟩
    · have hbody : body? (body ++ rest) = some l := body?_eq_some_iff.mpr ⟨body, rest, rfl, isBody⟩
      obtain ⟨inner, after, hgroup, hafter⟩ := isBody.afterGroup? rest
      -- what would be left after the fire's first group as a tag is no fire
      have hnone : body? (dropSpace after) = none :=
        body?_eq_none (hafter.head?_ne (by decide) (by decide))
      rw [List.nil_append, afterTag, hgroup]
      cases inner with
      | nil => simp [hbody]
      | cons c inner => simp [hnone, hbody]
    · rename_i inner group gap
      have hbody : body? (body ++ rest) = some l := body?_eq_some_iff.mpr ⟨body, rest, rfl, isBody⟩
      have hspace := head?_append_ne isBody.head? (by decide) rest
      obtain ⟨c, inner, rfl⟩ := List.exists_cons_of_ne_nil nonempty
      rw [List.append_assoc, afterTag, isGroup.append]
      simp [dropSpace_append isGap hspace, hbody]

/-- A fire begins with a bracket, with a tag or without. -/
theorem Tagged.head? (tagged : Tagged l cs) : cs.head? = some '[' := by
  obtain ⟨tag, body, rest, rfl, rfl | isTag, isBody⟩ := tagged
  · rw [List.nil_append, List.head?_append, isBody.head?]
    rfl
  · rw [List.head?_append, isTag.head?]
    rfl

/-- After the first bracket group of a tag and a fire comes the end of the fire, at the latest after one more. -/
theorem Tagged.afterGroup? (tagged : Tagged l cs) : ∃ one, FireLine.afterGroup? cs = some one ∧
    (Closes one ∨ one.head? = some '[' ∧ ∃ two, FireLine.afterGroup? one = some two ∧ Closes two) := by
  obtain ⟨tag, body, rest, rfl, hcases, isBody⟩ := tagged
  have hspace := head?_append_ne isBody.head? (by decide) rest
  obtain ⟨inner, after, hgroup, closes⟩ := isBody.afterGroup? rest
  have hbody : FireLine.afterGroup? (body ++ rest) = some (dropSpace after) := by
    rw [FireLine.afterGroup?, hgroup, Option.map_some]
  obtain rfl | ⟨isGroup, -, isGap⟩ := hcases
  · exact ⟨_, hbody, .inl closes⟩
  · refine ⟨_, isGroup.afterGroup? isGap hspace, .inr ⟨?_, _, hbody, closes⟩⟩
    rw [List.head?_append, isBody.head?]
    rfl

/-- After the first bracket group of a header comes its colon, at the latest after one more. -/
theorem Header.afterGroup? (isHeader : Header header) (rest : List Char) : ∃ last, Gap last ∧
    (FireLine.afterGroup? (header ++ rest) = some (':' :: (last ++ rest)) ∨
      ∃ one, FireLine.afterGroup? (header ++ rest) = some one ∧ one.head? = some '[' ∧
        FireLine.afterGroup? one = some (':' :: (last ++ rest))) := by
  -- a header has one group or two before its colon
  cases isHeader with
  | @one inner group gap last isGroup isGap isLast =>
    refine ⟨last, isLast, .inl ?_⟩
    rw [List.append_assoc (group ++ gap)]
    exact isGroup.afterGroup? isGap (by simp)
  | @two inner group gap inner' group' gap' last isGroup isGap isGroup' isGap' isLast =>
    refine ⟨last, isLast, .inr ⟨group' ++ gap' ++ ':' :: (last ++ rest), ?_, ?_,
      isGroup'.afterGroup? isGap' (by simp)⟩⟩
    · have hspace := head?_append_ne isGroup'.head? (by decide) (gap' ++ ':' :: (last ++ rest))
      rw [← List.append_assoc] at hspace
      have hassoc : group ++ gap ++ (group' ++ gap' ++ ':' :: last) ++ rest =
          group ++ gap ++ (group' ++ gap' ++ ':' :: (last ++ rest)) := by simp
      rw [hassoc]
      exact isGroup.afterGroup? isGap hspace
    · rw [List.append_assoc, List.head?_append, isGroup'.head?]
      rfl

/-- A header is taken, with what would be left without it after that. -/
theorem afterHeader_append (isHeader : Header header) (hrest : rest.head? ≠ some ' ') :
    afterHeader (header ++ rest) = [rest, header ++ rest] := by
  obtain ⟨last, isLast, hone | ⟨one, hone, hbracket, htwo⟩⟩ := isHeader.afterGroup? rest
  · have hnone : FireLine.afterGroup? (':' :: (last ++ rest)) = none := afterGroup?_eq_none (by simp)
    simp [afterHeader, hone, hnone, afterColon?_append isLast hrest]
  · have hnone : afterColon? one = none := afterColon?_eq_none (by simp [hbracket])
    simp [afterHeader, hone, htwo, hnone, afterColon?_append isLast hrest]

/-- A tag and a fire do not begin like a header. -/
theorem Tagged.afterHeader_eq (tagged : Tagged l cs) : afterHeader cs = [cs] := by
  obtain ⟨one, hone, closes | ⟨hbracket, two, htwo, closes⟩⟩ := tagged.afterGroup?
  · have hnone := afterColon?_eq_none (closes.head?_ne (by decide) (by decide))
    have hnone' := afterGroup?_eq_none (closes.head?_ne (by decide) (by decide))
    simp [afterHeader, hone, hnone, hnone']
  · have hnone : afterColon? one = none := afterColon?_eq_none (by simp [hbracket])
    have hnone' := afterColon?_eq_none (closes.head?_ne (by decide) (by decide))
    simp [afterHeader, hone, htwo, hnone, hnone']

/-- What is left of a header is a line without one, or it is what follows a header. -/
theorem mem_afterHeader (h : rest ∈ afterHeader cs) :
    ∃ header, cs = header ++ rest ∧ (header = [] ∨ Header header) := by
  have hgroup : ∀ {cs rest : List Char}, FireLine.afterGroup? cs = some rest →
      ∃ inner group gap, Group inner group ∧ Gap gap ∧ cs = group ++ gap ++ rest := by
    intro cs rest h
    obtain ⟨⟨inner, after⟩, hgroup, rfl⟩ := Option.map_eq_some_iff.mp h
    obtain ⟨group, isGroup, rfl⟩ := group?_eq_some_iff.mp hgroup
    obtain ⟨gap, isGap, hafter⟩ := exists_gap after
    exact ⟨inner, group, gap, isGroup, isGap, by rw [List.append_assoc, ← hafter]⟩
  -- two groups are tried first, then one, then none
  obtain h | h := List.mem_append.mp h
  · obtain ⟨left, hleft, h⟩ := List.mem_filterMap.mp h
    obtain ⟨after, rfl, hcolon⟩ := Option.bind_eq_some_iff.mp h
    obtain ⟨last, isLast, rfl⟩ := afterColon?_eq_some hcolon
    simp only [List.mem_cons, List.not_mem_nil, or_false] at hleft
    obtain htwo | hone := hleft
    · obtain ⟨one, hone, hagain⟩ := Option.bind_eq_some_iff.mp htwo.symm
      obtain ⟨inner, group, gap, isGroup, isGap, rfl⟩ := hgroup hone
      obtain ⟨inner', group', gap', isGroup', isGap', rfl⟩ := hgroup hagain
      exact ⟨_, by simp, .inr (.two isGroup isGap isGroup' isGap' isLast)⟩
    · obtain ⟨inner, group, gap, isGroup, isGap, rfl⟩ := hgroup hone.symm
      exact ⟨_, by simp, .inr (.one isGroup isGap isLast)⟩
  · exact ⟨[], by rw [List.mem_singleton.mp h]; rfl, .inl rfl⟩

/-! ### Whole lines -/

/-- A line is read by trying to take off a header, then a tag. -/
theorem read?_eq (line : List Char) :
    read? line = (afterHeader line).findSome? fun cs => (afterTag cs).findSome? body? := by
  unfold read?
  induction afterHeader line with
  | nil => rfl
  | cons cs others ih =>
    rw [List.flatMap_cons, List.findSome?_append, ih, List.findSome?_cons]
    cases (afterTag cs).findSome? body? <;> rfl

/-- A line is read just if it is a fire line. -/
theorem read?_eq_some_iff {line : List Char} : read? line = some l ↔ Written l line := by
  rw [read?_eq]
  constructor
  · intro h
    obtain ⟨cs, hcs, htagged⟩ := List.exists_of_findSome?_eq_some h
    obtain ⟨header, rfl, isHeader⟩ := mem_afterHeader hcs
    obtain ⟨tag, body, rest, rfl, isTag, isBody⟩ := findSome?_afterTag_eq_some_iff.mp htagged
    exact ⟨header, tag, body, rest, rfl, isHeader, isTag, isBody⟩
  · rintro ⟨header, tag, body, rest, rfl, isHeader, isTag, isBody⟩
    have tagged : Tagged l (tag ++ (body ++ rest)) := ⟨tag, body, rest, rfl, isTag, isBody⟩
    have hread := findSome?_afterTag_eq_some_iff.mpr tagged
    obtain rfl | isHeader := isHeader
    · rw [List.nil_append, tagged.afterHeader_eq, List.findSome?_singleton, hread]
    · rw [afterHeader_append isHeader (by simp [tagged.head?]), List.findSome?_cons, hread]

/-- What a player says makes no fire line, whatever it is. -/
theorem read?_of_chat {line : List Char} (chat : Chat line) : read? line = none := by
  obtain ⟨header, tag, said, rfl, isHeader, isTag⟩ := chat
  -- what has been said begins with an angle bracket, where a fire has none
  have hsaid : ∀ l, ¬Tagged l (tag ++ '<' :: said) := by
    intro l tagged
    obtain rfl | ⟨isGroup, -, isGap⟩ := isTag
    · cases tagged.head?
    · obtain ⟨one, hone, closes | ⟨hbracket, -⟩⟩ := tagged.afterGroup?
      · rw [isGroup.afterGroup? isGap (by simp)] at hone
        cases hone
        exact closes.head?_ne (c := '<') (by decide) (by decide) rfl
      · rw [isGroup.afterGroup? isGap (by simp)] at hone
        cases hone
        cases hbracket
  -- without the header taken off, the line goes on with a colon where a fire line could not
  have hwhole : ∀ l, ¬Tagged l (header ++ (tag ++ '<' :: said)) := by
    intro l tagged
    obtain ⟨one, hone, hcases⟩ := tagged.afterGroup?
    obtain ⟨last, -, hone' | ⟨one', hone', hbracket', htwo'⟩⟩ := isHeader.afterGroup? (tag ++ '<' :: said)
    · rw [hone'] at hone
      cases hone
      obtain closes | ⟨hbracket, -⟩ := hcases
      · exact closes.head?_ne (c := ':') (by decide) (by decide) rfl
      · cases hbracket
    · rw [hone'] at hone
      cases hone
      obtain closes | ⟨-, two, htwo, closes⟩ := hcases
      · exact closes.head?_ne (by decide) (by decide) hbracket'
      · rw [htwo'] at htwo
        cases htwo
        exact closes.head?_ne (c := ':') (by decide) (by decide) rfl
  have hspace : (tag ++ '<' :: said).head? ≠ some ' ' := by
    obtain rfl | isTag := isTag
    · simp
    · exact head?_append_ne isTag.head? (by decide) _
  -- neither way is a fire, and no other one is tried
  have hnone : ∀ {cs}, (∀ l, ¬Tagged l cs) → (afterTag cs).findSome? body? = none := by
    intro cs hcs
    rw [Option.eq_none_iff_forall_ne_some]
    exact fun l hl => hcs l (findSome?_afterTag_eq_some_iff.mp hl)
  rw [read?_eq, afterHeader_append isHeader hspace, List.findSome?_cons, hnone hsaid, List.findSome?_singleton,
    hnone hwhole]

/-! ### The fire that a line tells of -/

/-- What a line says is what its fire is. -/
theorem tells_fire (l : FireLine) : l.Tells l.fire where
  player := String.toList_ofList
  trigger := by
    show Stripped isBlank l.trigger (String.ofList (trim l.trigger)).toList
    rw [String.toList_ofList]
    exact stripped_strip isBlank l.trigger
  nothing h := by rw [fire, h]
  ascii n hn digits := by
    rw [fire, Option.mem_def.mp hn]
    exact Numeral.toInt_clampToInt32 digits
  foreign n hn digits := by
    rw [fire, Option.mem_def.mp hn]
    exact Numeral.clampToInt32_of_not_ascii digits

end FireLine

/-- A line is taken for a fire exactly if it is written as one that says so. -/
theorem Fire.ofLine?_eq_some_iff {line : String} {fire : Fire} :
    Fire.ofLine? line = some fire ↔ ∃ l : FireLine, l.Written line.toList ∧ l.fire = fire := by
  rw [Fire.ofLine?, Option.map_eq_some_iff]
  simp only [FireLine.read?_eq_some_iff]

/-- A line is taken for a fire just if it is a fire line, which can be taken apart in one way only, and the fire
is the one that it tells of. -/
theorem Fire.accepts_written (line : String) :
    ((Fire.ofLine? line).isSome ↔ ∃ l : FireLine, l.Written line.toList) ∧
      ∀ l : FireLine, l.Written line.toList → (∀ l' : FireLine, l'.Written line.toList → l' = l) ∧
        ∃ fire, Fire.ofLine? line = some fire ∧ l.Tells fire := by
  constructor
  · rw [Option.isSome_iff_exists]
    constructor
    · rintro ⟨fire, hfire⟩
      obtain ⟨l, written, -⟩ := Fire.ofLine?_eq_some_iff.mp hfire
      exact ⟨l, written⟩
    · rintro ⟨l, written⟩
      exact ⟨l.fire, Fire.ofLine?_eq_some_iff.mpr ⟨l, written, rfl⟩⟩
  · intro l written
    have hread := FireLine.read?_eq_some_iff.mpr written
    refine ⟨fun l' written' => ?_, l.fire, Fire.ofLine?_eq_some_iff.mpr ⟨l, written, rfl⟩, l.tells_fire⟩
    rw [← FireLine.read?_eq_some_iff, hread] at written'
    exact (Option.some.inj written').symm

/-- A fire after a header of two groups and a tag that looks like a fire, with white space around the name and
a value that is out of bounds. -/
theorem Fire.accepts_written_beyond_bounds : ∃ fire, Fire.ofLine?
      "[12:00] [main/INFO]: [Bob: Triggered [x] [Alice: Triggered [ tri_x ] (added -0099999999999 to value)]" =
        some fire ∧ fire.player.toList = "Alice".toList ∧ fire.value.toInt = -2147483648 := by
  let line : String :=
    "[12:00] [main/INFO]: [Bob: Triggered [x] [Alice: Triggered [ tri_x ] (added -0099999999999 to value)]"
  let n : Numeral := ⟨true, "0099999999999".toList⟩
  let l : FireLine := ⟨"Alice".toList, " tri_x ".toList, some n⟩
  have hclock : FireLine.Group "12:00".toList "[12:00]".toList := ⟨by decide, rfl⟩
  have hthread : FireLine.Group "main/INFO".toList "[main/INFO]".toList := ⟨by decide, rfl⟩
  have hbob : FireLine.Group "Bob: Triggered [x".toList "[Bob: Triggered [x]".toList := ⟨by decide, rfl⟩
  have htrigger : FireLine.Group " tri_x ".toList "[ tri_x ]".toList := ⟨by decide, rfl⟩
  have isHeader : FireLine.Header "[12:00] [main/INFO]: ".toList :=
    @FireLine.Header.two _ _ [' '] _ _ [] [' '] hclock (.inr rfl) hthread (.inl rfl) (.inr rfl)
  have isTag : FireLine.Tag "[Bob: Triggered [x] ".toList :=
    @FireLine.Tag.mk _ _ [' '] hbob (by decide) (.inr rfl)
  have isBody : FireLine.Body l "[Alice: Triggered [ tri_x ] (added -0099999999999 to value)]".toList :=
    @FireLine.Body.mk _ _ [' '] [' '] _ [' '] _ _ (by decide) (List.all_eq_true.mp (by decide)) (.inr rfl)
      (.inr rfl) htrigger (.inr rfl) (.added ⟨by decide, List.all_eq_true.mp (by decide)⟩)
  have written : l.Written line.toList := ⟨_, _, _, [], by decide, .inr isHeader, .inr isTag, isBody⟩
  obtain ⟨-, fire, hfire, tells⟩ := (Fire.accepts_written line).2 l written
  refine ⟨fire, hfire, tells.player, ?_⟩
  rw [tells.ascii n rfl (List.all_eq_true.mp (by decide))]
  decide

end Scoreboard

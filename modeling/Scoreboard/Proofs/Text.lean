import Scoreboard.Text.Blank
import Scoreboard.Text.Numeral
import Scoreboard.Text.Scan

/-!
# What is taken from a text

What the readers of plain text leave and take, said without them: an optional space (`Gap`), the longest
numeral (`Numeral.read?_eq_some_iff`), what is left between the characters of a class (`stripped_strip`). The
value of a numeral held to the 32-bit integers is the nearest one to it (`Numeral.toInt_clampToInt32`), and a number
is the value of the numeral that it is written as (`Numeral.text_ofInt`, `Numeral.signed_ofInt`).

A text is also taken apart at a separator (`pieces`). What is joined with the separator comes apart into the pieces of
its parts (`pieces_intercalate`), and the pieces of a text can be joined again (`intercalate_pieces`).
-/

namespace Scoreboard.Text

/-! ### Characters of a class -/

section

variable {p : Char → Bool} {cs rest : List Char}

/-- The characters of a class are taken up to the first one that is not in it. -/
theorem takeWhile_append_of_stops (inside : ∀ c ∈ cs, p c) (stops : ∀ c ∈ rest.head?, ¬p c) :
    (cs ++ rest).takeWhile p = cs := by
  rw [List.takeWhile_append_of_pos inside]
  cases rest with
  | nil => simp
  | cons c rest => simp [stops c rfl]

/-- A stretch that ends where the condition fails is dropped as a whole. -/
theorem dropWhile_append_of_stops (inside : ∀ c ∈ cs, p c) (stops : ∀ c ∈ rest.head?, ¬p c) :
    (cs ++ rest).dropWhile p = rest := by
  rw [List.dropWhile_append_of_pos inside]
  cases rest with
  | nil => rfl
  | cons c rest => exact List.dropWhile_cons_of_neg (stops c rfl)

end

/-! ### Spaces -/

/-- Whether a text is an optional space. -/
def Gap (text : List Char) : Prop := text = [] ∨ text = [' ']

/-- A gap is dropped up to the first other character. -/
theorem dropSpace_append {gap rest : List Char} (hgap : Gap gap) (hrest : rest.head? ≠ some ' ') :
    dropSpace (gap ++ rest) = rest := by
  obtain rfl | rfl := hgap
  · rw [List.nil_append]
    unfold dropSpace
    split
    · simp at hrest
    · rfl
  · rfl

theorem exists_gap (cs : List Char) : ∃ gap, Gap gap ∧ cs = gap ++ dropSpace cs := by
  unfold dropSpace
  split
  · exact ⟨[' '], .inr rfl, rfl⟩
  · exact ⟨[], .inl rfl, rfl⟩

/-! ### Numerals -/

namespace Numeral

/-- Whether what is written is a numeral: it has digits, and nothing else after the sign. -/
structure IsDecimal (n : Numeral) : Prop where
  nonempty : n.digits ≠ []
  digits : ∀ c ∈ n.digits, isDigit c

/-- The value of the digits, with the sign. -/
def signed (n : Numeral) : Int :=
  if n.negative then -(Nat.ofDigitChars 10 n.digits 0 : Int) else Nat.ofDigitChars 10 n.digits 0

/-- The digits read are all there are up to the first other character, and at least one. -/
theorem readDigits?_eq_some_iff {negative : Bool} {cs rest : List Char} {n : Numeral} :
    readDigits? negative cs = some (n, rest) ↔
      n.negative = negative ∧ n.IsDecimal ∧ cs = n.digits ++ rest ∧ ∀ c ∈ rest.head?, ¬isDigit c := by
  obtain ⟨sign, digits⟩ := n
  unfold readDigits?
  constructor
  · intro h
    split at h
    · cases h
    · rename_i taken hne
      cases h
      have hall := List.all_takeWhile (p := isDigit) (l := cs)
      have hstops : ∀ c ∈ (cs.dropWhile isDigit).head?, ¬isDigit c := by
        intro c hc
        have hnot := List.head?_dropWhile_not isDigit cs
        rw [Option.mem_def.mp hc] at hnot
        simpa using hnot
      exact ⟨rfl, ⟨hne, List.all_eq_true.mp hall⟩, List.takeWhile_append_dropWhile.symm, hstops⟩
  · rintro ⟨rfl, decimal, rfl, stops⟩
    have htaken : (digits ++ rest).takeWhile isDigit = digits := takeWhile_append_of_stops decimal.digits stops
    have hleft : (digits ++ rest).dropWhile isDigit = rest := dropWhile_append_of_stops decimal.digits stops
    split
    · rename_i hnil
      exact absurd (htaken.symm.trans hnil) decimal.nonempty
    · rw [htaken, hleft]

/-- What is taken is the longest numeral at the front. -/
theorem read?_eq_some_iff {cs rest : List Char} {n : Numeral} : read? cs = some (n, rest) ↔
    n.IsDecimal ∧ cs = n.text ++ rest ∧ ∀ c ∈ rest.head?, ¬isDigit c := by
  unfold read? text
  -- the sign is read first: a minus sign is no digit, so the two readings exclude each other
  split
  · rename_i cs
    rw [readDigits?_eq_some_iff]
    constructor
    · rintro ⟨hsign, decimal, rfl, stops⟩
      exact ⟨decimal, by simp [hsign], stops⟩
    · rintro ⟨decimal, hcs, stops⟩
      cases hsign : n.negative with
      | true => exact ⟨rfl, decimal, by simpa [hsign] using hcs, stops⟩
      | false =>
        -- a minus sign is no digit
        cases hdigits : n.digits with
        | nil => exact absurd hdigits decimal.nonempty
        | cons d digits =>
          have hd := decimal.digits d (by simp [hdigits])
          simp only [hsign, hdigits, Bool.false_eq_true, if_false, List.cons_append, List.cons.injEq] at hcs
          rw [← hcs.1] at hd
          exact absurd hd (by decide)
  · rename_i hminus
    rw [readDigits?_eq_some_iff]
    constructor
    · rintro ⟨hsign, decimal, rfl, stops⟩
      exact ⟨decimal, by simp [hsign], stops⟩
    · rintro ⟨decimal, hcs, stops⟩
      cases hsign : n.negative with
      | true =>
        rw [hsign, if_pos rfl, List.cons_append] at hcs
        exact absurd hcs (hminus _)
      | false => exact ⟨rfl, decimal, by simpa [hsign] using hcs, stops⟩

theorem value?_of_ascii {n : Numeral} (ascii : ∀ c ∈ n.digits, c.isDigit) : n.value? = some n.signed := by
  unfold value? signed
  rw [if_pos (List.all_eq_true.mpr ascii)]

theorem value?_of_not_ascii {n : Numeral} (foreign : ¬∀ c ∈ n.digits, c.isDigit) : n.value? = none := by
  unfold value?
  rw [if_neg]
  rwa [List.all_eq_true]

/-- A numeral in ASCII digits is held to the 32-bit integers. -/
theorem toInt_clampToInt32 {n : Numeral} (ascii : ∀ c ∈ n.digits, c.isDigit) :
    n.clampToInt32.toInt = max (-2147483648) (min 2147483647 n.signed) := by
  have hleast : Int32.minValue.toInt = -2147483648 := by decide
  have hgreatest : Int32.maxValue.toInt = 2147483647 := by decide
  unfold clampToInt32
  rw [value?_of_ascii ascii, hleast, hgreatest]
  simp only
  split
  · rw [hleast]
    omega
  split
  · rw [hgreatest]
    omega
  · rw [Int32.toInt_ofInt_of_le (by omega) (by omega)]
    omega

/-- A numeral with foreign digits counts as out of range on the side of its sign. -/
theorem clampToInt32_of_not_ascii {n : Numeral} (foreign : ¬∀ c ∈ n.digits, c.isDigit) :
    n.clampToInt32 = if n.negative then Int32.minValue else Int32.maxValue := by
  rw [clampToInt32, value?_of_not_ascii foreign]

/-- The numeral that a number is written as. -/
def ofInt (v : Int) : Numeral := ⟨v < 0, Nat.toDigits 10 v.natAbs⟩

theorem isDigit_of_mem_ofInt {v : Int} {c : Char} (h : c ∈ (ofInt v).digits) : c.isDigit :=
  Nat.isDigit_of_mem_toDigits (by decide) (by decide) h

theorem isDecimal_ofInt (v : Int) : (ofInt v).IsDecimal where
  nonempty := Nat.toDigits_ne_nil
  digits _ hc := isDigit_of_isDigit (isDigit_of_mem_ofInt hc)

/-- A numeral of a number reads as the number is written. -/
theorem text_ofInt (v : Int) : (ofInt v).text = (toString v).toList := by
  show (ofInt v).text = v.repr.toList
  rw [Int.repr_eq_if, text, ofInt]
  by_cases h : v < 0
  · have hmagnitude : (-v).toNat = v.natAbs := by omega
    rw [if_neg (Int.not_le.mpr h), String.toList_append, Nat.toList_repr, hmagnitude]
    simp [h]
  · have hmagnitude : v.toNat = v.natAbs := by omega
    rw [if_pos (Int.not_lt.mp h), Nat.toList_repr, hmagnitude]
    simp [h]

/-- A written number is read back. -/
theorem signed_ofInt (v : Int) : (ofInt v).signed = v := by
  simp only [signed, ofInt, Nat.ofDigitChars_ten_toDigits, decide_eq_true_eq]
  split <;> omega

end Numeral

/-! ### What is left between characters of a class -/

/-- Whether a text is what is left of another one when the characters of a class are taken away at both ends. -/
structure Stripped (p : Char → Bool) (cs inner : List Char) : Prop where
  around : ∃ before after, cs = before ++ inner ++ after ∧ (∀ c ∈ before, p c) ∧ ∀ c ∈ after, p c
  first : ∀ c ∈ inner.head?, ¬p c
  last : ∀ c ∈ inner.getLast?, ¬p c

/-- Stripping takes away just what is to be taken away at both ends. -/
theorem stripped_strip (p : Char → Bool) (cs : List Char) : Stripped p cs (strip p cs) := by
  let middle := cs.dropWhile p
  have hcs : cs = cs.takeWhile p ++ middle := List.takeWhile_append_dropWhile.symm
  have hmiddle : middle = strip p cs ++ (middle.reverse.takeWhile p).reverse := by
    rw [strip, stripEnd, ← List.reverse_append, List.takeWhile_append_dropWhile, List.reverse_reverse]
  have hblank := List.all_eq_true.mp (List.all_takeWhile (p := p) (l := cs))
  have hblank' := List.all_eq_true.mp (List.all_takeWhile (p := p) (l := middle.reverse))
  refine ⟨⟨cs.takeWhile p, (middle.reverse.takeWhile p).reverse, ?_, hblank, ?_⟩, ?_, ?_⟩
  · rw [List.append_assoc, ← hmiddle, ← hcs]
  · intro c hc
    exact hblank' c (List.mem_reverse.mp hc)
  · intro c hc
    -- the first character left is the first one that is not taken away in front
    have hfirst : middle.head? = some c := by
      rw [hmiddle, List.head?_append, Option.mem_def.mp hc]
      rfl
    have hnot := List.head?_dropWhile_not p cs
    rw [show cs.dropWhile p = middle from rfl, hfirst] at hnot
    simpa using hnot
  · intro c hc
    have hnot := List.head?_dropWhile_not p middle.reverse
    rw [strip, stripEnd, List.getLast?_reverse] at hc
    rw [Option.mem_def.mp hc] at hnot
    simpa using hnot

/-- What stands between characters of a class, and neither begins nor ends with one, is what is left. -/
theorem Stripped.strip_eq {p : Char → Bool} {cs inner : List Char} (stripped : Stripped p cs inner)
    (ne : inner ≠ []) : strip p cs = inner := by
  obtain ⟨before, after, rfl, hbefore, hafter⟩ := stripped.around
  have hfront : (before ++ inner ++ after).dropWhile p = inner ++ after := by
    obtain ⟨first, others, rfl⟩ := List.exists_cons_of_ne_nil ne
    rw [List.append_assoc]
    exact dropWhile_append_of_stops hbefore stripped.first
  have hback : (inner ++ after).reverse.dropWhile p = inner.reverse := by
    have hafter' : ∀ c ∈ after.reverse, p c := fun c hc => hafter c (List.mem_reverse.mp hc)
    have hlast := stripped.last
    rw [← List.head?_reverse] at hlast
    rw [List.reverse_append]
    exact dropWhile_append_of_stops hafter' hlast
  rw [strip, stripEnd, hfront, hback, List.reverse_reverse]

/-- Nothing is in what is left of a text that was not in the text. -/
theorem Stripped.subset {p : Char → Bool} {cs inner : List Char} (stripped : Stripped p cs inner) :
    inner ⊆ cs := by
  obtain ⟨before, after, rfl, -, -⟩ := stripped.around
  intro c hc
  exact List.mem_append_left after (List.mem_append_right before hc)

/-- A text that neither begins nor ends with something to take away is left as it is. -/
theorem strip_eq_self {p : Char → Bool} {cs : List Char} (first : ∀ c ∈ cs.head?, ¬p c)
    (last : ∀ c ∈ cs.getLast?, ¬p c) : strip p cs = cs := by
  cases cs with
  | nil => exact strip_nil p
  | cons c cs =>
    have stripped : Stripped p (c :: cs) (c :: cs) := ⟨⟨[], [], by simp, by simp, by simp⟩, first, last⟩
    exact stripped.strip_eq (List.cons_ne_nil c cs)

/-! ### Pieces between separators -/

/-- A piece of a text is the empty one in front of a separator, or it begins with the first character, or it is a
piece of the rest. -/
theorem mem_splitOn_cons {sep c : Char} {cs piece : List Char} (h : piece ∈ (c :: cs).splitOn sep) :
    piece = [] ∨ (c ≠ sep ∧ ∃ first ∈ cs.splitOn sep, piece = c :: first) ∨ piece ∈ cs.splitOn sep := by
  obtain ⟨first, others, hsplit⟩ := List.exists_cons_of_ne_nil (List.splitOn_ne_nil sep cs)
  rw [List.splitOn_cons_eq_if_modifyHead] at h
  split at h
  · obtain rfl | h := List.mem_cons.mp h
    · exact .inl rfl
    · exact .inr (.inr h)
  · rename_i hc
    rw [hsplit, List.modifyHead_cons] at h
    rw [hsplit]
    obtain rfl | h := List.mem_cons.mp h
    · exact .inr (.inl ⟨by simpa using hc, first, List.mem_cons_self, rfl⟩)
    · exact .inr (.inr (List.mem_cons_of_mem first h))

/-- A piece has no character that the text does not have. -/
theorem subset_of_mem_splitOn {sep : Char} {cs piece : List Char} (h : piece ∈ cs.splitOn sep) :
    piece ⊆ cs := by
  induction cs generalizing piece with
  | nil => simpa [List.splitOn] using h
  | cons c cs ih =>
    obtain rfl | ⟨-, first, hfirst, rfl⟩ | h := mem_splitOn_cons h
    · exact List.nil_subset _
    · exact List.cons_subset_cons c (ih hfirst)
    · exact List.subset_cons_of_subset c (ih h)

/-- A piece does not have the separator. -/
theorem notMem_of_mem_splitOn {sep : Char} {cs piece : List Char} (h : piece ∈ cs.splitOn sep) :
    sep ∉ piece := by
  induction cs generalizing piece with
  | nil =>
    obtain rfl : piece = [] := by simpa [List.splitOn] using h
    exact List.not_mem_nil
  | cons c cs ih =>
    obtain rfl | ⟨hc, first, hfirst, rfl⟩ | h := mem_splitOn_cons h
    · exact List.not_mem_nil
    · exact List.not_mem_cons_of_ne_of_not_mem (Ne.symm hc) (ih hfirst)
    · exact ih h

/-- Parts that are written with a separator and a padding between them are read back with the padding. -/
theorem splitOn_intercalate {sep pad : Char} (hpad : sep ≠ pad) {parts : List (List Char)}
    (ne : parts ≠ []) (free : ∀ part ∈ parts, sep ∉ part) :
    (pad :: [sep, pad].intercalate parts).splitOn sep = parts.map (pad :: ·) := by
  induction parts with
  | nil => exact absurd rfl ne
  | cons part parts ih =>
    obtain ⟨hpart, hothers⟩ := List.forall_mem_cons.mp free
    have hfree : sep ∉ pad :: part := List.not_mem_cons_of_ne_of_not_mem hpad hpart
    cases parts with
    | nil => rw [List.intercalate_singleton, List.splitOn_eq_singleton hfree, List.map_singleton]
    | cons next parts =>
      have hjoined : pad :: [sep, pad].intercalate (part :: next :: parts) =
          (pad :: part) ++ sep :: (pad :: [sep, pad].intercalate (next :: parts)) := by
        rw [List.intercalate_cons_cons]
        simp
      rw [hjoined, List.splitOn_append_cons_self, List.splitOn_eq_singleton hfree,
        ih (List.cons_ne_nil _ _) hothers]
      rfl

/-- What stands between the separators of a text. -/
def pieces (sep : Char) (text : String) : List String := (text.toList.splitOn sep).map String.ofList

section

variable {sep : Char} {text : String}

theorem pieces_ne_nil (sep : Char) (text : String) : pieces sep text ≠ [] := by
  simp [pieces]

theorem pieces_of_notMem (h : sep ∉ text.toList) : pieces sep text = [text] := by
  rw [pieces, List.splitOn_eq_singleton h, List.map_singleton, String.ofList_toList]

/-- A separator divides the pieces before it from those after it. -/
theorem pieces_append (first rest : String) :
    pieces sep (first ++ String.singleton sep ++ rest) = pieces sep first ++ pieces sep rest := by
  have hchars : (first ++ String.singleton sep ++ rest).toList = first.toList ++ sep :: rest.toList := by simp
  rw [pieces, hchars, List.splitOn_append_cons_self, List.map_append]
  rfl

/-- The pieces of parts that are joined are those of the parts, in order. -/
theorem pieces_intercalate {parts : List String} (ne : parts ≠ []) :
    pieces sep ((String.singleton sep).intercalate parts) = parts.flatMap (pieces sep) := by
  induction parts with
  | nil => exact absurd rfl ne
  | cons part parts ih =>
    cases parts with
    | nil => simp
    | cons next parts =>
      rw [String.intercalate_cons_cons, pieces_append, ih (List.cons_ne_nil next parts)]
      rfl

/-- Parts without the separator are got back from the text that joins them. -/
theorem pieces_intercalate_of_free {parts : List String} (ne : parts ≠ [])
    (free : ∀ part ∈ parts, sep ∉ part.toList) :
    pieces sep ((String.singleton sep).intercalate parts) = parts := by
  have ne' : parts.map String.toList ≠ [] := by simpa using ne
  have free' : ∀ cs ∈ parts.map String.toList, sep ∉ cs := List.forall_mem_map.mpr free
  rw [pieces, String.toList_intercalate, String.toList_singleton, List.splitOn_intercalate sep free' ne',
    List.map_map]
  simp [Function.comp_def]

/-- The pieces of a text, joined, make up the text. -/
theorem intercalate_pieces (sep : Char) (text : String) :
    (String.singleton sep).intercalate (pieces sep text) = text := by
  have hchars : (pieces sep text).map String.toList = text.toList.splitOn sep := by
    simp [pieces, Function.comp_def]
  rw [← String.toList_inj, String.toList_intercalate, hchars, String.toList_singleton, List.intercalate_splitOn]

theorem notMem_of_mem_pieces {piece : String} (h : piece ∈ pieces sep text) : sep ∉ piece.toList := by
  obtain ⟨cs, hcs, rfl⟩ := List.mem_map.mp h
  rw [String.toList_ofList]
  exact notMem_of_mem_splitOn hcs

end

end Scoreboard.Text

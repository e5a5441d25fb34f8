/-!
# Taking text from the front

The recognisers of replies and log lines read a list of characters from the front and hand on what
is left. Each step here says in one lemma what it takes.
-/

namespace Scoreboard.Text

/-- Takes the given characters from the front, if they stand there. -/
def dropLead? : List Char → List Char → Option (List Char)
  | [], cs => some cs
  | _ :: _, [] => none
  | p :: ps, c :: cs => if p = c then dropLead? ps cs else none

/-- A lead is taken off exactly those texts that begin with it. -/
theorem dropLead?_eq_some_iff {lead cs rest : List Char} :
    dropLead? lead cs = some rest ↔ cs = lead ++ rest := by
  induction lead generalizing cs with
  | nil => simp [dropLead?, eq_comm]
  | cons p ps ih =>
    cases cs with
    | nil => simp [dropLead?]
    | cons c cs =>
      by_cases h : p = c
      · subst h; simp [dropLead?, ih]
      · simp [dropLead?, h, Ne.symm h]

@[simp] theorem dropLead?_append (lead rest : List Char) :
    dropLead? lead (lead ++ rest) = some rest :=
  dropLead?_eq_some_iff.2 rfl

/-- Takes one space from the front if there is one. -/
def dropSpace : List Char → List Char
  | ' ' :: cs => cs
  | cs => cs

/-- The part before the first separator and the part after it. -/
def cutAt? (sep : Char) : List Char → Option (List Char × List Char)
  | [] => none
  | c :: cs =>
    if c = sep then some ([], cs)
    else (cutAt? sep cs).map fun (before, after) => (c :: before, after)

/-- A text is cut at the first place where the separator stands. -/
theorem cutAt?_eq_some_iff {sep : Char} {cs before after : List Char} :
    cutAt? sep cs = some (before, after) ↔ sep ∉ before ∧ cs = before ++ sep :: after := by
  -- the separator is here, or further on with one character more before it
  induction cs generalizing before with
  | nil => simp [cutAt?]
  | cons c cs ih =>
    by_cases h : c = sep
    · subst h
      cases before with
      | nil => simp [cutAt?]
      | cons b bs =>
        simp only [cutAt?, if_true, Option.some.injEq, Prod.mk.injEq, List.mem_cons,
          List.cons_append, List.cons.injEq]
        grind
    · cases before with
      | nil =>
        simp only [cutAt?, if_neg h, Option.map_eq_some_iff, Prod.exists, Prod.mk.injEq,
          List.nil_append, List.cons.injEq]
        grind
      | cons b bs =>
        simp only [cutAt?, if_neg h, Option.map_eq_some_iff, Prod.exists, Prod.mk.injEq,
          List.cons.injEq, List.mem_cons, List.cons_append]
        constructor
        · rintro ⟨x, y, hxy, ⟨rfl, rfl⟩, rfl⟩
          obtain ⟨hmem, rfl⟩ := ih.1 hxy
          exact ⟨by simp [hmem, Ne.symm h], rfl, rfl⟩
        · rintro ⟨hmem, rfl, hcs⟩
          exact ⟨bs, after, ih.2 ⟨fun hb => hmem (.inr hb), hcs⟩, ⟨rfl, rfl⟩, rfl⟩

/-- A text is not cut where the separator does not occur. -/
theorem cutAt?_eq_none_iff {sep : Char} {cs : List Char} : cutAt? sep cs = none ↔ sep ∉ cs := by
  induction cs with
  | nil => simp [cutAt?]
  | cons c cs ih =>
    by_cases h : c = sep
    · simp [cutAt?, h]
    · simp [cutAt?, h, Ne.symm h, ih]

/-- The first line of a text, without its line feed. -/
def firstLine (cs : List Char) : List Char := cs.takeWhile (· != '\n')

end Scoreboard.Text

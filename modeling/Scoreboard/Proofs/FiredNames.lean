import Scoreboard.Proofs.FireLines
import Scoreboard.Proofs.Trigger

/-!
# Trigger names in fire lines

The server writes the name of a trigger into the line that tells of its use, and the name is all that leads from there
to the callback. Main statement (`namesRead`): names of triggers are the same just if token and word are, they are
sixteen characters of the alphabet, and a line in which the server says that a player has set one to a value is read as
just this player, this name and this value, whatever log header and tag stand before it (`NamesRead`).

A token has five symbols and a word has six, so a name can be taken apart in one way only (`name_eq_iff`), although the
symbol between them may stand in both.
-/

namespace Scoreboard

open Text

/-- The line in which a server says that a player has set a trigger to a value, behind a log header and a tag. -/
def FireLine.ofSet (header tag : List Char) (player trigger : String) (value : Int32) : String :=
  String.ofList header ++ String.ofList tag ++
    "[" ++ player ++ ": Triggered [" ++ trigger ++ "] (set value to " ++ toString value.toInt ++ ")]"

/-- A name that neither begins nor ends with white space, and has no closing bracket, is read back. -/
theorem Fire.ofLine?_ofSet {header tag : List Char} {player trigger : String} (value : Int32)
    (isHeader : header = [] ∨ FireLine.Header header) (isTag : tag = [] ∨ FireLine.Tag tag)
    (nonempty : player ≠ "") (word : ∀ c ∈ player.toList, isWord c) (unclosed : ']' ∉ trigger.toList)
    (bare : trim trigger.toList = trigger.toList) :
    Fire.ofLine? (FireLine.ofSet header tag player trigger value) = some ⟨player, trigger, value⟩ := by
  let numeral := Numeral.ofInt value.toInt
  let l : FireLine := ⟨player.toList, trigger.toList, some numeral⟩
  have isBody := @FireLine.Body.mk player.toList trigger.toList [' '] [' '] _ [' '] _ (some numeral)
    (by simpa using nonempty) word (.inr rfl) (.inr rfl) ⟨unclosed, rfl⟩ (.inr rfl)
    (.set (Numeral.isDecimal_ofInt value.toInt))
  -- the line is written as the grammar has it
  have written : l.Written (FireLine.ofSet header tag player trigger value).toList := by
    refine ⟨header, tag, _, [], ?_, isHeader, isTag, isBody⟩
    simp [FireLine.ofSet, numeral, Numeral.text_ofInt]
  refine ofLine?_eq_some_iff.mpr ⟨l, written, ?_⟩
  -- a 32-bit integer is within the bounds to which values are held
  have hvalue : numeral.clampToInt32 = value := by
    have least := value.le_toInt
    have greatest := value.toInt_lt
    rw [← Int32.toInt_inj, Numeral.toInt_clampToInt32 fun _ => Numeral.isDigit_of_mem_ofInt, Numeral.signed_ofInt]
    omega
  simp [l, FireLine.fire, bare, hvalue]

/-- No symbol of the alphabet is a blank. -/
theorem Base64.not_isBlank_of_isSymbol {c : Char} (h : Base64.isSymbol c) : ¬isBlank c := by
  -- between a hyphen and the letter z there is no white space
  have bounds : 45 ≤ c.toNat ∧ c.toNat ≤ 122 := by
    have h : (('A'.val ≤ c.val ∧ c.val ≤ 'Z'.val || 'a'.val ≤ c.val && c.val ≤ 'z'.val) ||
      '0'.val ≤ c.val && c.val ≤ '9'.val || c = '-' || c = '_') = true := h
    simp only [Bool.or_eq_true, Bool.and_eq_true, decide_eq_true_eq, UInt32.le_iff_toNat_le] at h
    obtain (((h | h) | h) | rfl) | rfl := h
    · exact ⟨Nat.le_trans (by decide) h.1, Nat.le_trans h.2 (by decide)⟩
    · exact ⟨Nat.le_trans (by decide) h.1, Nat.le_trans h.2 (by decide)⟩
    · exact ⟨Nat.le_trans (by decide) h.1, Nat.le_trans h.2 (by decide)⟩
    · decide
    · decide
  simp only [isBlank, Bool.or_eq_true, Bool.and_eq_true, decide_eq_true_eq]
  omega

namespace Trigger

variable {plugin other : Plugin} {word word' : UInt32}

/-- What the names of triggers are good for. -/
structure NamesRead (plugin : Plugin) (word : UInt32) : Prop where
  /-- Names tell the token and the word. -/
  tells : ∀ (other : Plugin) word', name plugin.namespaceToken word = name other.namespaceToken word' ↔
    plugin.namespaceToken = other.namespaceToken ∧ word = word'
  length : (name plugin.namespaceToken word).length = 16
  symbols : ∀ c ∈ (name plugin.namespaceToken word).toList, Base64.isSymbol c
  family : startsWith (name plugin.namespaceToken word) "tri_"
  /-- What a player has set is read from the server's line. -/
  read : ∀ (header tag : List Char) (player : String) (value : Int32),
    (header = [] ∨ FireLine.Header header) → (tag = [] ∨ FireLine.Tag tag) →
      player ≠ "" → (∀ c ∈ player.toList, isWord c) →
        Fire.ofLine? (FireLine.ofSet header tag player (name plugin.namespaceToken word) value) =
          some ⟨player, name plugin.namespaceToken word, value⟩

/-- A name is the prefix, the token and the word, joined with an underscore. -/
theorem toList_name (token : String) (word : UInt32) :
    (name token word).toList = "tri_".toList ++ (token.toList ++ ('_' :: Base64.encodeWord word)) := by
  simp [name, family]

/-- Names of plugins are the same exactly if the tokens and the words are. -/
theorem name_eq_iff : name plugin.namespaceToken word = name other.namespaceToken word' ↔
    plugin.namespaceToken = other.namespaceToken ∧ word = word' := by
  constructor
  · intro h
    have hlist := congrArg String.toList h
    rw [toList_name, toList_name] at hlist
    have hlength := plugin.length_namespaceToken.trans other.length_namespaceToken.symm
    obtain ⟨htoken, hword⟩ := List.append_inj (List.append_cancel_left hlist) hlength
    exact ⟨String.toList_inj.mp htoken, Base64.encodeWord_inj (List.cons.inj hword).2⟩
  · rintro ⟨htoken, rfl⟩
    rw [htoken]

theorem length_name (plugin : Plugin) (word : UInt32) : (name plugin.namespaceToken word).length = 16 := by
  rw [← String.length_toList, toList_name, List.length_append, List.length_append, plugin.length_namespaceToken,
    List.length_cons, Base64.length_encodeWord]
  rfl

theorem trim_name (plugin : Plugin) (word : UInt32) :
    trim (name plugin.namespaceToken word).toList = (name plugin.namespaceToken word).toList := by
  have bare : ∀ c ∈ (name plugin.namespaceToken word).toList, ¬isBlank c :=
    fun c hc => Base64.not_isBlank_of_isSymbol (isSymbol_of_mem_name plugin word c hc)
  exact strip_eq_self (fun c hc => bare c (List.mem_of_head? hc)) fun c hc => bare c (List.mem_of_getLast? hc)

/-- Trigger names tell tokens and words, and are read back from the lines that players' uses are told in. -/
theorem namesRead (plugin : Plugin) (word : UInt32) : NamesRead plugin word where
  tells _ _ := name_eq_iff
  length := length_name plugin word
  symbols := isSymbol_of_mem_name plugin word
  family := by
    rw [startsWith, List.isPrefixOf_iff_prefix, toList_name]
    exact List.prefix_append _ _
  read header tag player value isHeader isTag nonempty isPlayer := by
    have unclosed : ']' ∉ (name plugin.namespaceToken word).toList :=
      fun h => absurd (isSymbol_of_mem_name plugin word _ h) (by decide)
    exact Fire.ofLine?_ofSet value isHeader isTag nonempty isPlayer unclosed (trim_name plugin word)

end Trigger

end Scoreboard

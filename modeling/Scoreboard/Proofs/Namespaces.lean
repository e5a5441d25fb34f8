import Scoreboard.Console
import Scoreboard.Plugin
import Scoreboard.Proofs.Base64

/-!
# When namespaces coincide

A token is short, so plugins may share one. Main statement (`tokensTell`): two plugins have the same token just
if the hashes of their names agree in the bits 2 to 31, and objectives have the same name on the server just if their
plugins have the same token and they have the same name there.

A token has five symbols, so the name of an objective on the server can be taken apart in one way only
(`objectiveName_eq_iff`), even if tokens and names hold underscores.
-/

namespace Scoreboard.Plugin

variable {p q : Plugin} {name name' : String}

/-- What the namespaces of two plugins have to do with each other. -/
structure TokensTell (p q : Plugin) : Prop where
  length : p.namespaceToken.length = 5
  /-- A token is made of letters, digits, hyphens and underscores. -/
  symbols : ∀ c ∈ p.namespaceToken.toList, Base64.isSymbol c
  /-- Of a hash, a token tells the lower half but for its two lowest bits. -/
  shared : p.namespaceToken = q.namespaceToken ↔ ∀ i, 2 ≤ i → i ≤ 31 →
    (XXH64.hash 0 p.name.toUTF8.toList).toNat.testBit i = (XXH64.hash 0 q.name.toUTF8.toList).toNat.testBit i
  objectives : ∀ name name', p.objectiveName name = q.objectiveName name' ↔
    p.namespaceToken = q.namespaceToken ∧ name = name'

/-! ### Tokens -/

theorem length_namespaceToken (plugin : Plugin) : plugin.namespaceToken.toList.length = 5 := by
  rw [namespaceToken, token, tokenOfWord, String.toList_ofList, List.length_take, Base64.length_encodeWord]
  rfl

theorem isSymbol_of_mem_token {c : Char} (h : c ∈ (token name).toList) : Base64.isSymbol c := by
  rw [token, tokenOfWord, String.toList_ofList] at h
  exact Base64.isSymbol_of_mem_encode (List.mem_of_mem_take h)

/-- Two words have one token just if they agree but for the last two bits. -/
theorem tokenOfWord_eq_iff {v w : UInt32} : tokenOfWord v = tokenOfWord w ↔ v.toNat / 4 = w.toNat / 4 := by
  rw [tokenOfWord, tokenOfWord, ← Base64.take_five_encodeWord_eq_iff]
  exact ⟨fun h => String.ofList_injective h, congrArg String.ofList⟩

/-- The words of two hashes give the same token just if the hashes agree in the bits that are told. -/
theorem tokenOfWord_toUInt32_eq_iff {g h : UInt64} : tokenOfWord g.toUInt32 = tokenOfWord h.toUInt32 ↔
    ∀ i, 2 ≤ i → i ≤ 31 → g.toNat.testBit i = h.toNat.testBit i := by
  -- the bits that are told of a hash are those of its word over four
  have told (g : UInt64) (i : Nat) :
      (g.toUInt32.toNat / 2 ^ 2).testBit i = (decide (i + 2 < 32) && g.toNat.testBit (i + 2)) := by
    rw [Nat.testBit_div_two_pow, UInt64.toNat_toUInt32, Nat.testBit_mod_two_pow]
  rw [tokenOfWord_eq_iff]
  constructor
  · intro hdiv i hlow hhigh
    have hbit : (decide (i - 2 + 2 < 32) && g.toNat.testBit (i - 2 + 2)) =
        (decide (i - 2 + 2 < 32) && h.toNat.testBit (i - 2 + 2)) := by
      rw [← told g, ← told h]
      exact congrArg (Nat.testBit · (i - 2)) hdiv
    rwa [Nat.sub_add_cancel hlow, decide_eq_true (Nat.lt_succ_of_le hhigh), Bool.true_and, Bool.true_and] at hbit
  · intro agree
    apply Nat.eq_of_testBit_eq
    intro i
    refine (told g i).trans (Eq.trans ?_ (told h i).symm)
    by_cases hi : i + 2 < 32
    · rw [agree (i + 2) (by omega) (by omega)]
    · simp [hi]

/-! ### Objectives -/

/-- An objective's name is its plugin's token with an underscore, and then the logical name. -/
theorem toList_objectiveName (p : Plugin) (name : String) :
    (p.objectiveName name).toList = (p.namespaceToken ++ "_").toList ++ name.toList := by
  simp [objectiveName]

theorem length_token_append (p : Plugin) : (p.namespaceToken ++ "_").toList.length = 6 := by
  rw [String.toList_append, List.length_append, p.length_namespaceToken]
  rfl

theorem token_append_inj (h : (p.namespaceToken ++ "_").toList = (q.namespaceToken ++ "_").toList) :
    p.namespaceToken = q.namespaceToken := by
  rw [String.toList_append, String.toList_append] at h
  exact String.toList_inj.mp (List.append_cancel_right h)

/-- Objectives have the same name on the server just if token and name are the same. -/
theorem objectiveName_eq_iff :
    p.objectiveName name = q.objectiveName name' ↔ p.namespaceToken = q.namespaceToken ∧ name = name' := by
  constructor
  · intro h
    have hlist := congrArg String.toList h
    rw [toList_objectiveName, toList_objectiveName] at hlist
    obtain ⟨htoken, hname⟩ := List.append_inj hlist (p.length_token_append.trans q.length_token_append.symm)
    exact ⟨token_append_inj htoken, String.toList_inj.mp hname⟩
  · rintro ⟨htoken, rfl⟩
    rw [objectiveName, objectiveName, htoken]

/-- An objective's name on the server starts with the token of its plugin and no other. -/
theorem startsWith_objectiveName :
    startsWith (p.objectiveName name) (q.namespaceToken ++ "_") ↔ p.namespaceToken = q.namespaceToken := by
  rw [startsWith, List.isPrefixOf_iff_prefix, toList_objectiveName]
  constructor
  · intro hlead
    have hlength := q.length_token_append.trans p.length_token_append.symm
    have hlead := List.prefix_of_prefix_length_le hlead (List.prefix_append _ _) (Nat.le_of_eq hlength)
    exact (token_append_inj (hlead.eq_of_length hlength)).symm
  · intro htoken
    rw [htoken]
    exact List.prefix_append _ _

/-- Plugins share a namespace just if the hashes of their names agree in the bits that a token tells. -/
theorem tokensTell (p q : Plugin) : TokensTell p q where
  length := by rw [← String.length_toList, length_namespaceToken]
  symbols _ hc := isSymbol_of_mem_token hc
  shared := tokenOfWord_toUInt32_eq_iff
  objectives _ _ := objectiveName_eq_iff

end Scoreboard.Plugin

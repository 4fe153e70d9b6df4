import Drawboard.Json.Basic
import Mathlib.Tactic.NormNum

/-! The units of a text are read back as that text, so a string among the settings of a
configuration is the text that it was made from. -/

namespace Drawboard

namespace Units

theorem toNat_lt (c : Char) : c.toNat < 0x110000 := by
  rcases c.valid with h | h
  · exact Nat.lt_trans h (by decide)
  · exact h.2

/-- No character is half of a surrogate pair. -/
theorem not_surrogate (c : Char) : ¬(0xd800 ≤ c.toNat ∧ c.toNat < 0xe000) := by
  rcases c.valid with h | h
  · exact fun hs => absurd h (Nat.not_lt.2 hs.1)
  · exact fun hs => absurd h.1 (Nat.not_lt.2 (Nat.le_of_lt_succ hs.2))

theorem toNat_toUInt16 {n : Nat} (h : n < 65536) : n.toUInt16.toNat = n :=
  UInt16.toNat_ofNat_of_lt' h

theorem toChars?_ofChar_append (c : Char) (rest : Units) :
    toChars? (ofChar c ++ rest) = (toChars? rest).map (c :: ·) := by
  have hlt := toNat_lt c
  have hs := not_surrogate c
  unfold ofChar
  by_cases hn : c.toNat < 0x10000
  · have hu := toNat_toUInt16 hn
    have hhigh : isHigh c.toNat.toUInt16 = false := by
      simp [isHigh, hu]
      omega
    have hlow : isLow c.toNat.toUInt16 = false := by
      simp [isLow, hu]
      omega
    simp only [if_pos hn, List.singleton_append]
    cases rest with
    | nil => simp [toChars?, hhigh, hlow, hu]
    | cons v rest => simp [toChars?, hhigh, hlow, hu]
  · have hq : 0xd800 + (c.toNat - 0x10000) / 0x400 < 65536 := by omega
    have hr : 0xdc00 + (c.toNat - 0x10000) % 0x400 < 65536 := by omega
    have hhigh : isHigh (0xd800 + (c.toNat - 0x10000) / 0x400).toUInt16 = true := by
      simp [isHigh]
      omega
    have hlow : isLow (0xdc00 + (c.toNat - 0x10000) % 0x400).toUInt16 = true := by
      simp [isLow]
      omega
    have hvalue : 0x10000 + (0xd800 + (c.toNat - 0x10000) / 0x400 - 0xd800) * 0x400 +
        (0xdc00 + (c.toNat - 0x10000) % 0x400 - 0xdc00) = c.toNat := by omega
    simp only [if_neg hn, List.cons_append, List.nil_append, toChars?, hhigh, hlow, if_true,
      toNat_toUInt16 hq, toNat_toUInt16 hr, hvalue, Char.ofNat_toNat]

theorem toChars?_ofChars (cs : List Char) : toChars? (ofChars cs) = some cs := by
  induction cs with
  | nil => rfl
  | cons c cs ih =>
    rw [ofChars, List.flatMap_cons, toChars?_ofChar_append]
    exact congrArg _ ih

theorem toString?_ofString (s : String) : toString? (ofString s) = some s := by
  rw [toString?, ofString, toChars?_ofChars, Option.map_some, String.ofList_toList]

end Units

theorem Json.string?_ofString (s : String) : (Json.ofString s).string? = some s :=
  Units.toString?_ofString s

end Drawboard

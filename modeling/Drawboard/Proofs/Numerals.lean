import Drawboard.Text.Numeral
import Mathlib.Data.List.Induction
import Mathlib.Data.Nat.Digits.Defs

/-! A word is read as a number exactly if it is written as one: a sign or none, from 1 to 4300
decimal digits, and a value that fits into 32 bits with a sign. -/

namespace Drawboard

def decimal (digits : List Char) : Nat := Nat.ofDigits 10 (digits.reverse.map (·.toNat - 48))

/-- A word is an optional sign before decimal digits, and they stand for `n`. -/
def SpellsInt (word : String) (n : Int) : Prop :=
  ∃ sign digits : List Char,
    word.toList = sign ++ digits ∧ (sign = [] ∨ sign = ['+'] ∨ sign = ['-']) ∧
    1 ≤ digits.length ∧ digits.length ≤ 4300 ∧ (∀ d ∈ digits, '0' ≤ d ∧ d ≤ '9') ∧
    n = (if sign = ['-'] then -(decimal digits : Int) else decimal digits) ∧
    -2147483648 ≤ n ∧ n ≤ 2147483647

theorem decimal_concat (ds : List Char) (d : Char) :
    decimal (ds ++ [d]) = 10 * decimal ds + (d.toNat - 48) := by
  simp [decimal, Nat.ofDigits_cons, Nat.add_comm]

theorem ofDigitChars_eq_decimal (ds : List Char) : Nat.ofDigitChars 10 ds 0 = decimal ds := by
  induction ds using List.reverseRecOn with
  | nil => rfl
  | append_singleton ds d ih =>
    rw [Nat.ofDigitChars_append, ih, decimal_concat, Nat.ofDigitChars_cons, Nat.ofDigitChars_nil]
    rfl

theorem isDigit_iff (c : Char) : c.isDigit = true ↔ '0' ≤ c ∧ c ≤ '9' := by
  simp only [Char.isDigit, Bool.and_eq_true, decide_eq_true_eq]
  rfl

theorem all_isDigit_iff (cs : List Char) :
    cs.all Char.isDigit = true ↔ ∀ d ∈ cs, '0' ≤ d ∧ d ≤ '9' := by
  simp only [List.all_eq_true, isDigit_iff]

namespace Numeral

theorem ofDigits?_eq_some_iff {negative : Bool} {cs : List Char} {n : Numeral} :
    ofDigits? negative cs = some n ↔
      n = ⟨negative, cs⟩ ∧ 1 ≤ cs.length ∧ ∀ d ∈ cs, '0' ≤ d ∧ d ≤ '9' := by
  have hc : (!cs.isEmpty && cs.all Char.isDigit) = true ↔
      1 ≤ cs.length ∧ ∀ d ∈ cs, '0' ≤ d ∧ d ≤ '9' := by
    rw [Bool.and_eq_true, all_isDigit_iff]
    cases cs <;> simp
  unfold ofDigits?
  split
  · next h => exact ⟨fun he => ⟨(Option.some.inj he).symm, hc.1 h⟩, fun he => by rw [he.1]⟩
  · next h => exact ⟨nofun, fun he => absurd (hc.2 he.2) h⟩

/-- Without a sign the first character is a digit, and so the word is not taken for a signed one. -/
theorem ofChars?_of_digits {cs : List Char} (h : ∀ d ∈ cs, '0' ≤ d ∧ d ≤ '9') :
    ofChars? cs = ofDigits? false cs := by
  unfold ofChars?
  split
  · exact absurd (h '+' (by simp)) (by decide)
  · exact absurd (h '-' (by simp)) (by decide)
  · rfl

theorem ofChars?_eq_some_iff {cs : List Char} {n : Numeral} :
    ofChars? cs = some n ↔
      ∃ sign, cs = sign ++ n.digits ∧ (sign = [] ∨ sign = ['+'] ∨ sign = ['-']) ∧
        1 ≤ n.digits.length ∧ (∀ d ∈ n.digits, '0' ≤ d ∧ d ≤ '9') ∧
        n.negative = decide (sign = ['-']) := by
  constructor
  · intro h
    unfold ofChars? at h
    split at h <;> obtain ⟨rfl, hl, hd⟩ := ofDigits?_eq_some_iff.1 h
    · exact ⟨['+'], rfl, by simp, hl, hd, rfl⟩
    · exact ⟨['-'], rfl, by simp, hl, hd, rfl⟩
    · exact ⟨[], rfl, by simp, hl, hd, rfl⟩
  · obtain ⟨negative, digits⟩ := n
    rintro ⟨sign, rfl, rfl | rfl | rfl, hl, hd, hn⟩ <;> simp only at hl hd hn <;> subst hn
    · exact (ofChars?_of_digits hd).trans (ofDigits?_eq_some_iff.2 ⟨rfl, hl, hd⟩)
    · exact ofDigits?_eq_some_iff.2 ⟨rfl, hl, hd⟩
    · exact ofDigits?_eq_some_iff.2 ⟨rfl, hl, hd⟩

theorem chars_of_of? {word : String} {n : Numeral} (h : of? word = some n) :
    word.toList ≠ [] ∧ ∀ c ∈ word.toList, c = '+' ∨ c = '-' ∨ ('0' ≤ c ∧ c ≤ '9') := by
  obtain ⟨sign, hw, hs, hl, hd, -⟩ := ofChars?_eq_some_iff.1 h
  rw [hw]
  constructor
  · intro h0
    rw [(List.append_eq_nil_iff.1 h0).2] at hl
    exact absurd hl (by decide)
  · intro c hc
    rcases List.mem_append.1 hc with hc | hc
    · rcases hs with rfl | rfl | rfl <;> simp_all
    · exact Or.inr (Or.inr (hd c hc))

theorem value_eq (negative : Bool) (digits : List Char) :
    (Numeral.mk negative digits).value =
      if negative then -(decimal digits : Int) else decimal digits := by
  simp only [value, ofDigitChars_eq_decimal]

end Numeral

theorem readInt_eq_value_iff (word : String) (n : Int) :
    readInt word = .value n ↔ SpellsInt word n := by
  constructor
  · intro h
    unfold readInt at h
    split at h
    · cases h
    · next m hm =>
      obtain ⟨sign, hw, hs, hl, hd, hn⟩ := Numeral.ofChars?_eq_some_iff.1 hm
      split at h
      · cases h
      · next hlong =>
        split at h
        · next hr =>
          cases h
          refine ⟨sign, m.digits, hw, hs, hl, Nat.le_of_not_lt hlong, hd, ?_, hr⟩
          rw [Numeral.value_eq m.negative m.digits, hn]
          simp
        · cases h
  · rintro ⟨sign, digits, hw, hs, hl, hshort, hd, rfl, hr⟩
    have hm : Numeral.of? word = some ⟨decide (sign = ['-']), digits⟩ :=
      Numeral.ofChars?_eq_some_iff.2 ⟨sign, hw, hs, hl, hd, rfl⟩
    have hv : (Numeral.mk (decide (sign = ['-'])) digits).value =
        if sign = ['-'] then -(decimal digits : Int) else decimal digits := by
      rw [Numeral.value_eq]
      simp
    have hnl : ¬Numeral.maxDigits < digits.length := Nat.not_lt.2 hshort
    simp only [readInt, hm, hv, if_neg hnl, if_pos hr]

theorem SpellsInt.bounds {word : String} {n : Int} (h : SpellsInt word n) :
    -2147483648 ≤ n ∧ n ≤ 2147483647 := by
  obtain ⟨sign, digits, -, -, -, -, -, -, hr⟩ := h
  exact hr

theorem SpellsInt.exists_numeral {word : String} {n : Int} (h : SpellsInt word n) :
    ∃ m, Numeral.of? word = some m := by
  obtain ⟨sign, digits, hw, hs, hl, -, hd, -⟩ := h
  exact ⟨⟨decide (sign = ['-']), digits⟩,
    Numeral.ofChars?_eq_some_iff.2 ⟨sign, hw, hs, hl, hd, rfl⟩⟩

/-- Numbers are written in ASCII, and not with characters that come before the digits but for signs. -/
theorem SpellsInt.chars {word : String} {n : Int} (h : SpellsInt word n) :
    word.toList ≠ [] ∧ ∀ c ∈ word.toList, c = '+' ∨ c = '-' ∨ ('0' ≤ c ∧ c ≤ '9') := by
  obtain ⟨m, hm⟩ := h.exists_numeral
  exact Numeral.chars_of_of? hm

end Drawboard

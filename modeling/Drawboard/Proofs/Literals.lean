import Drawboard.Json.Reader
import Drawboard.Json.Writer
import Drawboard.Proofs.Units
import Mathlib.Data.List.TakeDrop

/-! What is written for a JSON string, a whole number or a word is read back as that value, and the
text behind it is left over. Whole numbers end only where the text behind them does not continue
them. -/

namespace Drawboard.Json

def withUnit (u : UInt16) (read : Units × List Char) : Units × List Char := (u :: read.1, read.2)

theorem hexValue?_digitChar : ∀ d < 16, Text.hexValue? (Nat.digitChar d) = some d := by
  decide

theorem hexUnit?_escaped (u : UInt16) :
    hexUnit? (u.toNat / 4096 % 16).digitChar (u.toNat / 256 % 16).digitChar
      (u.toNat / 16 % 16).digitChar (u.toNat % 16).digitChar = some u := by
  have hlt : u.toNat < 65536 := u.toNat_lt
  have hsum : u.toNat / 4096 % 16 * 4096 + u.toNat / 256 % 16 * 256 + u.toNat / 16 % 16 * 16 +
      u.toNat % 16 = u.toNat := by omega
  have hdigit (n : Nat) := hexValue?_digitChar (n % 16) (Nat.mod_lt n (by decide))
  simp only [hexUnit?, hdigit, Option.bind_eq_bind, Option.bind_some, hsum]
  exact congrArg some UInt16.ofNat_toNat

theorem stringRest_escapedUnit (u : UInt16) (rest : List Char) :
    stringRest (escapedUnit u ++ rest) = (stringRest rest).map (withUnit u) := by
  simp only [escapedUnit, List.cons_append, List.nil_append, stringRest, hexUnit?_escaped]
  cases stringRest rest <;> rfl

theorem stringRest_shortEscape {e : Char} {u : UInt16} (h : shortEscape? e = some u)
    (rest : List Char) : stringRest ('\\' :: e :: rest) = (stringRest rest).map (withUnit u) := by
  rw [stringRest.eq_4, h]
  · cases stringRest rest <;> rfl
  · rintro a b c d tail rfl -
    cases h

theorem toNat_ofNat_of_lt {n : Nat} (h : n < 0xd800) : (Char.ofNat n).toNat = n := by
  rw [Char.ofNat, dif_pos (Or.inl h)]
  rfl

/-- An ASCII character that needs no escape. -/
theorem stringRest_ofNat {u : UInt16} (hquote : u ≠ 0x22) (hslash : u ≠ 0x5c)
    (hlow : 0x20 ≤ u.toNat) (hhigh : u.toNat < 0x7f) (rest : List Char) :
    stringRest (Char.ofNat u.toNat :: rest) = (stringRest rest).map (withUnit u) := by
  have hchar : (Char.ofNat u.toNat).toNat = u.toNat := toNat_ofNat_of_lt (by omega)
  have hunit : Units.ofChar (Char.ofNat u.toNat) = [u] := by
    simp only [Units.ofChar, hchar, if_pos (show u.toNat < 0x10000 by omega)]
    exact congrArg (fun v => [v]) UInt16.ofNat_toNat
  have hne {c : Char} (hc : u.toNat ≠ c.toNat) : Char.ofNat u.toNat ≠ c := by
    intro h
    rw [← h, hchar] at hc
    exact hc rfl
  have hquote' : Char.ofNat u.toNat ≠ '"' := hne fun h => hquote (UInt16.toNat_inj.1 h)
  have hslash' : Char.ofNat u.toNat ≠ '\\' := hne fun h => hslash (UInt16.toNat_inj.1 h)
  rw [stringRest.eq_5 _ _ hquote' (fun _ _ _ _ _ h => absurd h hslash')
    (fun _ _ h => absurd h hslash'), hchar, if_neg (by simpa [hslash'] using hlow), hunit]
  cases stringRest rest <;> rfl

theorem stringRest_unitText (u : UInt16) (rest : List Char) :
    stringRest (unitText u ++ rest) = (stringRest rest).map (withUnit u) := by
  unfold unitText
  split_ifs with hquote hslash hn hr ht hf hb hplain
  · exact hquote ▸ stringRest_shortEscape rfl rest
  · exact hslash ▸ stringRest_shortEscape rfl rest
  · exact hn ▸ stringRest_shortEscape rfl rest
  · exact hr ▸ stringRest_shortEscape rfl rest
  · exact ht ▸ stringRest_shortEscape rfl rest
  · exact hf ▸ stringRest_shortEscape rfl rest
  · exact hb ▸ stringRest_shortEscape rfl rest
  · simp only [Bool.and_eq_true, decide_eq_true_iff] at hplain
    exact stringRest_ofNat hquote hslash hplain.1 hplain.2 rest
  · exact stringRest_escapedUnit u rest

theorem stringRest_stringText (units : Units) (rest : List Char) :
    stringRest (units.flatMap unitText ++ '"' :: rest) = some (units, rest) := by
  induction units with
  | nil => rfl
  | cons u units ih =>
    rw [List.flatMap_cons, List.append_assoc, stringRest_unitText, ih]
    rfl

/-- A text that does not continue a whole number. -/
def Ends (rest : List Char) : Prop :=
  ∀ c ∈ rest.head?, c.isDigit = false ∧ c ≠ '.' ∧ c ≠ 'e' ∧ c ≠ 'E'

theorem isDigit_of_mem_toDigits {n : Nat} {d : Char} (h : d ∈ Nat.toDigits 10 n) :
    d.isDigit = true :=
  Nat.isDigit_of_mem_toDigits (by decide) (by decide) h

theorem toDigits_head (n : Nat) :
    ∃ d digits, Nat.toDigits 10 n = d :: digits ∧ d.isDigit = true := by
  obtain ⟨d, digits, hdigits⟩ := List.exists_cons_of_ne_nil (Nat.toDigits_ne_nil (n := n) (b := 10))
  exact ⟨d, digits, hdigits, isDigit_of_mem_toDigits (n := n) (hdigits ▸ List.mem_cons_self)⟩

theorem digitChar_ne_zero : ∀ n < 10, 0 < n → Nat.digitChar n ≠ '0' := by
  decide

theorem toDigits_eq_cons {n : Nat} (hn : 0 < n) :
    ∃ d digits, Nat.toDigits 10 n = d :: digits ∧ d ≠ '0' := by
  induction n using Nat.strong_induction_on with
  | _ n ih =>
    by_cases h : n < 10
    · exact ⟨n.digitChar, [], Nat.toDigits_of_lt_base h, digitChar_ne_zero n h hn⟩
    · obtain ⟨d, digits, hdigits, hd⟩ := ih (n / 10) (by omega) (by omega)
      refine ⟨d, digits ++ [(n % 10).digitChar], ?_, hd⟩
      rw [Nat.toDigits_of_base_le (by decide) (not_lt.1 h), hdigits, List.cons_append]

theorem span_digits {digits rest : List Char} (hdigits : ∀ d ∈ digits, d.isDigit = true)
    (hrest : Ends rest) : (digits ++ rest).span Char.isDigit = (digits, rest) := by
  rw [List.span_eq_takeWhile_dropWhile, List.takeWhile_append_of_pos hdigits,
    List.dropWhile_append_of_pos hdigits]
  cases rest with
  | nil => simp
  | cons c tail =>
    have hc := (hrest c rfl).1
    simp [hc]

theorem wholeDigits_toDigits (n : Nat) {rest : List Char} (hrest : Ends rest) :
    wholeDigits (Nat.toDigits 10 n ++ rest) = (Nat.toDigits 10 n, rest) := by
  cases n with
  | zero => rfl
  | succ n =>
    obtain ⟨d, digits, hdigits, hd⟩ := toDigits_eq_cons (Nat.succ_pos n)
    have hspan := span_digits (fun _ => isDigit_of_mem_toDigits (n := n + 1)) hrest
    rw [hdigits, List.cons_append] at hspan ⊢
    rw [wholeDigits.eq_2 _ (fun _ h => hd (List.cons.inj h).1), hspan]

theorem unsigned?_toDigits (negative : Bool) {n : Nat} {rest : List Char}
    (hn : (Nat.toDigits 10 n).length ≤ Numeral.maxDigits) (hrest : Ends rest) :
    unsigned? negative (Nat.toDigits 10 n ++ rest) =
      some (.int (if negative then -n else n), rest) := by
  have hfraction : fraction? rest = some (none, rest) := by
    rw [fraction?.eq_2]
    rintro tail rfl
    exact (hrest '.' rfl).2.1 rfl
  have hexponent : exponent? rest = some (none, rest) := by
    cases rest with
    | nil => rfl
    | cons c tail =>
      obtain ⟨-, -, he, hE⟩ := hrest c rfl
      simp [exponent?, he, hE]
  have hsome : (Nat.toDigits 10 n).isEmpty = false :=
    List.isEmpty_eq_false_iff.2 Nat.toDigits_ne_nil
  have hvalue : digitsValue (Nat.toDigits 10 n) = n := Nat.ofDigitChars_ten_toDigits
  simp only [unsigned?, wholeDigits_toDigits n hrest, hsome, hfraction, Option.bind_eq_bind,
    Option.bind_some, hexponent, hvalue, if_neg (Nat.not_lt.2 hn), Bool.false_eq_true, if_false]
  rfl

theorem int_toList (n : Int) :
    (toString n).toList = (if n < 0 then ['-'] else []) ++ Nat.toDigits 10 n.natAbs := by
  rw [Int.toString_eq_repr]
  cases n with
  | ofNat n => simp [Int.repr]
  | negSucc n => simp [Int.repr]

theorem ne_of_isDigit {d c : Char} (hd : d.isDigit = true) (hc : c.isDigit = false) : d ≠ c := by
  rintro rfl
  rw [hc] at hd
  cases hd

theorem int_head (n : Int) :
    ∃ c tail, (toString n).toList = c :: tail ∧ (c = '-' ∨ c.isDigit = true) := by
  obtain ⟨d, digits, hdigits, hd⟩ := toDigits_head n.natAbs
  rw [int_toList, hdigits]
  split
  · exact ⟨'-', d :: digits, rfl, Or.inl rfl⟩
  · exact ⟨d, digits, rfl, Or.inr hd⟩

/-- Neither a digit nor a minus sign before a digit starts a word. -/
theorem word?_of_digit {d : Char} (hd : d.isDigit = true) (rest : List Char) :
    word? (d :: rest) = none ∧ word? ('-' :: d :: rest) = none := by
  simp [word?, words, after?, (ne_of_isDigit hd _).symm]

theorem scalar?_int {n : Int} {rest : List Char}
    (hn : (Nat.toDigits 10 n.natAbs).length ≤ Numeral.maxDigits) (hrest : Ends rest) :
    scalar? ((toString n).toList ++ rest) = some (.int n, rest) := by
  have hread (negative : Bool) := unsigned?_toDigits negative hn hrest
  obtain ⟨d, digits, hdigits, hd⟩ := toDigits_head n.natAbs
  rw [int_toList, scalar?]
  rw [hdigits] at hread ⊢
  split
  · next h =>
    have hneg : -(n.natAbs : Int) = n := by omega
    have hnumber := hread true
    rw [if_pos rfl, hneg] at hnumber
    have hword := (word?_of_digit hd (digits ++ rest)).2
    simp only [List.cons_append, List.nil_append] at hnumber hword ⊢
    rw [hword, number?, hnumber]
    rfl
  · next h =>
    have hpos : (n.natAbs : Int) = n := by omega
    have hnumber := hread false
    rw [if_neg Bool.false_ne_true, hpos] at hnumber
    have hword := (word?_of_digit hd (digits ++ rest)).1
    have hsign : ∀ tail, d :: (digits ++ rest) = '-' :: tail → False :=
      fun _ h => ne_of_isDigit hd rfl (List.cons.inj h).1
    simp only [List.cons_append, List.nil_append] at hnumber ⊢
    rw [hword, number?.eq_2 _ hsign, hnumber]
    rfl

end Drawboard.Json

import Drawboard.Binary64.Value
import Mathlib.Data.Rat.Floor

/-! Whole numbers of less than 54 binary digits are numbers of the format, so nothing is lost when
they are handed to a painter, and what is not less than one of them is not rounded to less. Rounding
keeps the order of all whole numbers, and it makes no difference of signs. -/

namespace Drawboard.Binary64

theorem roundEven_of_dvd {num den : Nat} (hpos : 0 < den) (hdvd : den ∣ num) :
    roundEven num den = num / den := by
  have hr : num % den = 0 := Nat.mod_eq_zero_of_dvd hdvd
  rw [roundEven, if_pos (by omega)]

theorem excess_le {m : Nat} (hm : m < 2 ^ 53) (e : Nat) : excess (m * 2 ^ e) ≤ e := by
  rcases Nat.eq_zero_or_pos m with rfl | hpos
  · simp [excess]
  · have hlog : (m * 2 ^ e).log2 < 53 + e := by
      rw [Nat.log2_lt (Nat.ne_of_gt (Nat.mul_pos hpos (Nat.two_pow_pos e))), Nat.pow_add]
      exact Nat.mul_lt_mul_of_pos_right hm (Nat.two_pow_pos e)
    rw [excess]
    omega

theorem nearest_of_small {m : Nat} (hm : m < 2 ^ 53) (e : Nat) :
    nearest (m * 2 ^ e) 1 = m * 2 ^ e := by
  have hdvd : 2 ^ excess (m * 2 ^ e) ∣ m * 2 ^ e :=
    (Nat.pow_dvd_pow 2 (excess_le hm e)).trans (Nat.dvd_mul_left _ _)
  rw [nearest, Nat.div_one, Nat.one_shiftLeft,
    roundEven_of_dvd (Nat.two_pow_pos _) hdvd, Nat.shiftLeft_eq, Nat.div_mul_cancel hdvd]

theorem exists_unitsPerOne_eq : ∃ e, unitsPerOne = 2 ^ e := by
  have hpow (e : Nat) : ∃ e', 1 <<< e = 2 ^ e' := ⟨e, Nat.one_shiftLeft e⟩
  exact hpow 1074

theorem unitsPerOne_ne_zero : (unitsPerOne : Rat) ≠ 0 := by
  obtain ⟨e, he⟩ := exists_unitsPerOne_eq
  rw [he, Nat.cast_ne_zero]
  exact (Nat.two_pow_pos e).ne'

theorem round_intCast {n : Int} (hn : n.natAbs < 2 ^ 53) : round n = n := by
  have hnear : nearest (n.natAbs * unitsPerOne) 1 = n.natAbs * unitsPerOne := by
    obtain ⟨e, he⟩ := exists_unitsPerOne_eq
    rw [he, nearest_of_small hn e]
  have hs : (if n < 0 then -((n.natAbs * unitsPerOne : Nat) : Int)
      else (n.natAbs * unitsPerOne : Nat)) = n * unitsPerOne := by
    rw [Nat.cast_mul, Int.natCast_natAbs]
    split
    · rw [abs_of_neg ‹_›, neg_mul, neg_neg]
    · rw [abs_of_nonneg (not_lt.1 ‹_›)]
  simp only [round, Rat.num_intCast, Rat.den_intCast, hnear, hs]
  rw [Rat.mkRat_eq_div, Int.cast_mul, Int.cast_natCast]
  exact mul_div_cancel_right₀ _ unitsPerOne_ne_zero

theorem exists_overflow_eq : ∃ bound : Nat, 2 ^ 53 ≤ bound ∧ overflow = (bound : Int) := by
  have hpow (e : Nat) (he : 53 ≤ e) : 2 ^ 53 ≤ 1 <<< e := by
    rw [Nat.one_shiftLeft]
    exact Nat.pow_le_pow_right (by decide) he
  exact ⟨1 <<< 1024, hpow 1024 (by decide), Rat.mkRat_one _⟩

theorem intCast_lt_overflow {n : Int} (hn : n.natAbs < 2 ^ 53) :
    -overflow < (n : Rat) ∧ (n : Rat) < overflow := by
  obtain ⟨bound, hb, ho⟩ := exists_overflow_eq
  rw [ho, ← Int.cast_neg, Int.cast_lt, Int.cast_lt]
  omega

theorem Value.ofInt_of_small {n : Int} (hn : n.natAbs < 2 ^ 53) : Value.ofInt n = .finite n := by
  have ho := intCast_lt_overflow hn
  simp only [ofInt, ofRat, round_intCast hn]
  rw [if_neg (not_le.2 ho.2), if_neg (not_le.2 ho.1)]

theorem div_le_roundEven (num den : Nat) : num / den ≤ roundEven num den := by
  rw [roundEven]
  split
  · exact le_rfl
  · split <;> omega

/-- Where few digits are dropped a multiple of `2 ^ e` is kept, and where many are, all that is left
is larger anyway. -/
theorem le_nearest {m num den e : Nat} (hm : m ≤ 2 ^ 53) (h : m * 2 ^ e ≤ num / den) :
    m * 2 ^ e ≤ nearest num den := by
  have hfloor (k : Nat) (hk : k = excess (num / den)) :
      num / den / 2 ^ k * 2 ^ k ≤ nearest num den := by
    rw [nearest, ← hk, Nat.shiftLeft_eq, Nat.shiftLeft_eq, Nat.div_div_eq_div_mul]
    exact Nat.mul_le_mul_right _ (div_le_roundEven _ _)
  refine le_trans ?_ (hfloor _ rfl)
  rcases Nat.lt_or_ge e (excess (num / den)) with he | he
  · have hne : num / den ≠ 0 := by
      intro h0
      rw [h0] at he
      exact absurd he (Nat.not_lt_zero e)
    have hlog : 2 ^ (excess (num / den) + 52) ≤ num / den := by
      rw [← Nat.le_log2 hne, excess]
      rw [excess] at he
      omega
    have hdigits : 2 ^ 52 ≤ num / den / 2 ^ excess (num / den) := by
      rw [Nat.le_div_iff_mul_le (Nat.two_pow_pos _), ← Nat.pow_add, Nat.add_comm]
      exact hlog
    calc m * 2 ^ e ≤ 2 ^ 53 * 2 ^ e := Nat.mul_le_mul_right _ hm
      _ = 2 ^ 52 * 2 ^ (e + 1) := by rw [Nat.pow_succ, Nat.pow_succ]; ring
      _ ≤ 2 ^ 52 * 2 ^ excess (num / den) :=
        Nat.mul_le_mul_left _ (Nat.pow_le_pow_right (by decide) he)
      _ ≤ _ := Nat.mul_le_mul_right _ hdigits
  · obtain ⟨d, rfl⟩ := Nat.exists_eq_add_of_le he
    rw [Nat.pow_add, Nat.mul_comm (2 ^ _), ← Nat.mul_assoc] at h ⊢
    exact Nat.mul_le_mul_right _ ((Nat.le_div_iff_mul_le (Nat.two_pow_pos _)).2 h)

theorem le_round {m : Nat} (hm : m ≤ 2 ^ 53) {q : Rat} (h : (m : Rat) ≤ q) :
    (m : Rat) ≤ round q := by
  have hnum : 0 ≤ q.num := Rat.num_nonneg.2 ((Nat.cast_nonneg m).trans h)
  have hle : m * q.den ≤ q.num.natAbs := by
    rw [Rat.le_iff] at h
    simp only [Rat.num_natCast, Rat.den_natCast, Nat.cast_one, mul_one] at h
    omega
  obtain ⟨e, he⟩ := exists_unitsPerOne_eq
  have hnear : m * unitsPerOne ≤ nearest (q.num.natAbs * unitsPerOne) q.den := by
    rw [he]
    refine le_nearest hm ((Nat.le_div_iff_mul_le q.pos).2 ?_)
    rw [Nat.mul_right_comm]
    exact Nat.mul_le_mul_right _ hle
  have hpos : (0 : Rat) < unitsPerOne :=
    lt_of_le_of_ne (Nat.cast_nonneg _) unitsPerOne_ne_zero.symm
  rw [round, if_neg (not_lt.2 hnum), Rat.mkRat_eq_div, Int.cast_natCast, le_div_iff₀ hpos]
  exact_mod_cast hnear

theorem roundEven_le (num den : Nat) : roundEven num den ≤ num / den + 1 := by
  rw [roundEven]
  split
  · exact Nat.le_succ _
  · split <;> omega

theorem roundEven_mono {a b : Nat} (h : a ≤ b) (den : Nat) : roundEven a den ≤ roundEven b den := by
  rcases (Nat.div_le_div_right (c := den) h).lt_or_eq with hlt | heq
  · exact (roundEven_le a den).trans (hlt.trans_le (div_le_roundEven b den))
  · have hr : a % den ≤ b % den := by
      have ha := Nat.div_add_mod a den
      have hb := Nat.div_add_mod b den
      rw [heq] at ha
      omega
    simp only [roundEven, heq]
    split_ifs <;> omega

theorem excess_mono {a b : Nat} (h : a ≤ b) : excess a ≤ excess b := by
  rcases Nat.eq_zero_or_pos a with rfl | ha
  · exact Nat.zero_le _
  · have hb : b ≠ 0 := (ha.trans_le h).ne'
    exact Nat.sub_le_sub_right ((Nat.le_log2 hb).2 ((Nat.log2_self_le ha.ne').trans h)) 52

theorem nearest_le (n : Nat) : nearest n 1 ≤ 2 ^ (53 + excess n) := by
  have hn : n < 2 ^ 53 * 2 ^ excess n := by
    rw [← Nat.pow_add]
    refine Nat.lt_log2_self.trans_le (Nat.pow_le_pow_right (by decide) ?_)
    rw [excess]
    omega
  have hdigits : n / 2 ^ excess n < 2 ^ 53 := (Nat.div_lt_iff_lt_mul (Nat.two_pow_pos _)).2 hn
  rw [nearest, Nat.div_one, Nat.one_shiftLeft, Nat.shiftLeft_eq, Nat.pow_add]
  exact Nat.mul_le_mul_right _ ((roundEven_le _ _).trans hdigits)

/-- Rounding keeps the order. Where more digits are dropped from the greater number, a power of two
is between the two. -/
theorem nearest_mono {a b : Nat} (h : a ≤ b) : nearest a 1 ≤ nearest b 1 := by
  rcases (excess_mono h).lt_or_eq with hlt | heq
  · have hb : b ≠ 0 := by
      rintro rfl
      exact Nat.not_lt_zero _ hlt
    have hpower : 2 ^ (52 + excess b) ≤ b := by
      have he : excess b = b.log2 - 52 := rfl
      rw [← Nat.le_log2 hb]
      omega
    calc nearest a 1 ≤ 2 ^ (53 + excess a) := nearest_le a
      _ ≤ 1 * 2 ^ (52 + excess b) := by
        rw [one_mul]
        exact Nat.pow_le_pow_right (by decide) (by omega)
      _ ≤ nearest b 1 := le_nearest (by decide) (by rwa [one_mul, Nat.div_one])
  · simp only [nearest, Nat.div_one, heq, Nat.shiftLeft_eq]
    exact Nat.mul_le_mul_right _ (roundEven_mono h _)

theorem abs_round_intCast (n : Int) :
    |round n| = (nearest (n.natAbs * unitsPerOne) 1 : Rat) / unitsPerOne := by
  have hsign (p : Prop) [Decidable p] (m : Nat) :
      |((if p then -(m : Int) else m : Int) : Rat)| = m := by
    split
    · rw [Int.cast_neg, abs_neg, Int.cast_natCast, Nat.abs_cast]
    · rw [Int.cast_natCast, Nat.abs_cast]
  rw [round, Rat.mkRat_eq_div, abs_div, hsign, Nat.abs_cast, Rat.num_intCast,
    Rat.den_intCast]

theorem round_neg (q : Rat) : round (-q) = -round q := by
  rcases lt_trichotomy q.num 0 with h | h | h
  · simp only [round, Rat.num_neg_eq_neg_num, Rat.den_neg_eq_den, Int.natAbs_neg]
    rw [if_pos h, if_neg (neg_pos.2 h).le.not_gt, Rat.mkRat_eq_div, Rat.mkRat_eq_div,
      Int.cast_neg, neg_div, neg_neg]
  · rw [Rat.num_eq_zero.1 h]
    have hzero := round_intCast (n := 0) (by decide)
    rw [Int.cast_zero] at hzero
    rw [neg_zero, hzero, neg_zero]
  · simp only [round, Rat.num_neg_eq_neg_num, Rat.den_neg_eq_den, Int.natAbs_neg]
    rw [if_pos (neg_lt_zero.2 h), if_neg h.le.not_gt, Rat.mkRat_eq_div, Rat.mkRat_eq_div,
      Int.cast_neg, neg_div]

namespace Value

theorem ofInt_eq_finite_iff (n : Int) :
    ofInt n = .finite n ↔ round n = n ∧ |(n : Rat)| < overflow := by
  simp only [ofInt, ofRat]
  constructor
  · intro h
    split at h
    · cases h
    · next hhigh =>
      split at h
      · cases h
      · next hlow =>
        have hround : round n = n := finite.inj h
        rw [hround] at hhigh hlow
        exact ⟨hround, abs_lt.2 ⟨not_le.1 hlow, not_le.1 hhigh⟩⟩
  · rintro ⟨hround, habs⟩
    obtain ⟨hlow, hhigh⟩ := abs_lt.1 habs
    rw [hround, if_neg (not_le.2 hhigh), if_neg (not_le.2 hlow)]

theorem ofInt_neg {n : Int} (h : ofInt n = .finite n) : ofInt (-n) = .finite (-n : Int) := by
  rw [ofInt_eq_finite_iff] at h ⊢
  rw [Int.cast_neg, round_neg, h.1, abs_neg]
  exact ⟨rfl, h.2⟩

/-- What is not less than a number: a finite value that is not, or the infinite one above. -/
def AtLeast (q : Rat) : Value → Prop
  | finite p => q ≤ p
  | infinite negative => negative = false
  | undefined => False

theorem atLeast_ofRat {m : Nat} (hm : m ≤ 2 ^ 53) {q : Rat} (h : (m : Rat) ≤ q) :
    AtLeast m (ofRat q) := by
  have hr := le_round hm h
  obtain ⟨bound, hb, ho⟩ := exists_overflow_eq
  have hneg : -overflow < round q := by
    rw [ho]
    have hpos : (0 : Rat) < bound := Nat.cast_pos.2 (by omega)
    have hround : (0 : Rat) ≤ round q := (Nat.cast_nonneg m).trans hr
    exact (neg_lt_zero.2 hpos).trans_le hround
  simp only [ofRat]
  split
  · rfl
  · rw [if_neg (not_le.2 hneg)]
    exact hr

end Value

end Drawboard.Binary64

import Drawboard.Proofs.Clipping
import Drawboard.Proofs.Exact

/-! Trimming rectangles. A rectangle is trimmed to the clip region before it is painted, and on the
canvas this shows no difference if the two have an area in common. If they only touch, or if the
rectangle is a line, a point at the origin is painted instead. -/

namespace Drawboard

namespace Binary64.Value

theorem ofInt_zero : ofInt 0 = finite (0 : Int) := ofInt_of_small (by decide)

open scoped Coordinate in
theorem lt_zero_iff (n : Int) : (finite n : Value) < Coordinate.ofInt 0 ↔ n < 0 := by
  have h : (finite n : Value) < Coordinate.ofInt 0 ↔ less (finite n) (ofInt 0) = true := Iff.rfl
  rw [h, ofInt_zero, less, decide_eq_true_iff, Int.cast_lt]

/-- A value that compares with whole numbers of up to `2 ^ 52` as `n` does. It is `n`, or both are
too large to tell. -/
def Stands (v : Value) (n : Int) : Prop :=
  v = finite n ∨ 2 ^ 52 < n ∧ AtLeast (2 ^ 53 - 16 : Nat) v

theorem AtLeast.of_le {p q : Rat} (hpq : p ≤ q) {v : Value} (h : AtLeast q v) : AtLeast p v := by
  cases v with
  | finite r => exact hpq.trans h
  | infinite negative => exact h
  | undefined => exact h

theorem stands_ofInt {n : Int} (hn : -2 ^ 53 < n) : Stands (ofInt n) n := by
  by_cases h : n < 2 ^ 53
  · exact Or.inl (ofInt_of_small (by omega))
  · have hle : ((2 ^ 53 : Nat) : Rat) ≤ n := by exact_mod_cast not_lt.1 h
    refine Or.inr ⟨by omega, (atLeast_ofRat le_rfl hle).of_le ?_⟩
    exact_mod_cast Nat.sub_le _ _

theorem stands_sub {n : Int} (hn : 0 ≤ n) :
    Stands ((ofInt (-16)).add (ofInt (n + 32))) (n + 16) := by
  have hleft : ofInt (-16) = finite (-16 : Int) := ofInt_of_small (by omega)
  rw [hleft]
  by_cases h : n + 32 < 2 ^ 53
  · rw [ofInt_of_small (n := n + 32) (by omega)]
    refine Or.inl ?_
    have hsum : ((-16 : Int) : Rat) + (n + 32 : Int) = (n + 16 : Int) := by
      push_cast
      ring
    rw [add, hsum]
    exact ofInt_of_small (by omega)
  · have hle : ((2 ^ 53 : Nat) : Rat) ≤ (n + 32 : Int) := by exact_mod_cast not_lt.1 h
    have hright : AtLeast (2 ^ 53 : Nat) (ofInt (n + 32)) := atLeast_ofRat le_rfl hle
    refine Or.inr ⟨by omega, ?_⟩
    cases hv : ofInt (n + 32) with
    | finite q =>
      rw [hv] at hright
      have hq : ((2 ^ 53 : Nat) : Rat) ≤ q := hright
      refine atLeast_ofRat (Nat.sub_le _ _) ?_
      push_cast at hq ⊢
      linarith
    | infinite negative =>
      rw [hv] at hright
      exact hright
    | undefined =>
      rw [hv] at hright
      exact hright

section

variable {v : Value} {n m : Int}

/-- What is at least 2^53 - 16 comes behind every smaller whole number. -/
theorem AtLeast.compare (h : AtLeast (2 ^ 53 - 16 : Nat) v) (hm : m ≤ 2 ^ 52) :
    less v (finite m) = false ∧ less (finite m) v = true ∧ atMost v (finite m) = false ∧
      atMost (finite m) v = true := by
  cases v with
  | finite q =>
    have hq : ((2 ^ 53 - 16 : Nat) : Rat) ≤ q := h
    have hmq : (m : Rat) < q := by
      refine lt_of_lt_of_le ?_ hq
      exact_mod_cast (show m < (2 ^ 53 - 16 : Nat) by omega)
    simp [less, atMost, hmq, hmq.le]
  | infinite negative =>
    obtain rfl : negative = false := h
    exact ⟨rfl, rfl, rfl, rfl⟩
  | undefined => cases h

theorem Stands.less_left (h : Stands v n) (hm : m ≤ 2 ^ 52) :
    less v (finite m) = decide (n < m) := by
  rcases h with rfl | ⟨hn, h⟩
  · simp [less]
  · rw [(h.compare hm).1, eq_comm, decide_eq_false_iff_not]
    omega

theorem Stands.atMost_left (h : Stands v n) (hm : m ≤ 2 ^ 52) :
    atMost v (finite m) = decide (n ≤ m) := by
  rcases h with rfl | ⟨hn, h⟩
  · simp [atMost]
  · rw [(h.compare hm).2.2.1, eq_comm, decide_eq_false_iff_not]
    omega

theorem Stands.atMost_right (h : Stands v n) (hm : m ≤ 2 ^ 52) :
    atMost (finite m) v = decide (m ≤ n) := by
  rcases h with rfl | ⟨hn, h⟩
  · simp [atMost]
  · rw [(h.compare hm).2.2.2, eq_comm, decide_eq_true_iff]
    omega

/-- What is at least 2^53 - 16 is not cut off, and what stands for less than a number is less. -/
theorem Stands.lesser_eq (h : Stands v n) (hm : m ≤ 2 ^ 52) :
    lesser (finite m) v = finite (min m n : Int) := by
  have hless := h.less_left hm
  unfold lesser
  split
  · next hv =>
    have hnm : n < m := of_decide_eq_true (hless.symm.trans hv)
    rw [min_eq_right hnm.le]
    rcases h with rfl | ⟨hn, -⟩
    · rfl
    · omega
  · next hv =>
    have hmn : ¬n < m := fun hnm => hv (hless.trans (decide_eq_true hnm))
    rw [min_eq_left (not_lt.1 hmn)]

theorem greater_finite (m n : Int) : greater (finite m) (finite n) = finite (max m n : Int) := by
  unfold greater
  split
  · next h =>
    have hmn : (m : Rat) < n := of_decide_eq_true h
    rw [max_eq_right (Int.cast_le.1 hmn.le)]
  · next h =>
    have hmn : ¬(m : Rat) < n := fun hmn => h (decide_eq_true hmn)
    rw [max_eq_left (Int.cast_le.1 (not_lt.1 hmn))]

theorem add_finite (h : (m + n).natAbs < 2 ^ 53) :
    (finite m).add (finite n) = finite (m + n : Int) := by
  rw [add, ← Int.cast_add]
  exact ofInt_of_small h

theorem sub_finite (h : (m - n).natAbs < 2 ^ 53) :
    (finite m).sub (finite n) = finite (m - n : Int) := by
  rw [sub, neg, ← Int.cast_neg, add_finite (by omega), sub_eq_add_neg]

end

end Binary64.Value

open Binary64

namespace Stretch

def between (l r : Int) : Stretch Binary64.Value := ⟨.finite l, .finite (r - l : Int)⟩

variable {l r : Int}

theorem stop_between (hr : r.natAbs < 2 ^ 53) : (between l r).stop = .finite r := by
  have h := Binary64.Value.add_finite (m := l) (n := r - l) (by omega)
  rw [add_sub_cancel] at h
  exact h

/-- A normalized stretch has its ends in order. Its far end is computed, and has to be exact too. -/
theorem normalized_of_exact {x w : Int} (hx : Binary64.Value.ofInt x = .finite x)
    (hw : Binary64.Value.ofInt w = .finite w)
    (hsum : Binary64.Value.ofInt (x + w) = .finite (x + w : Int)) :
    (⟨.ofInt x, .ofInt w⟩ : Stretch Binary64.Value).normalized =
      between (min x (x + w)) (max x (x + w)) := by
  rw [hx, hw]
  have hstop : (⟨.finite x, .finite w⟩ : Stretch Binary64.Value).stop = .finite (x + w : Int) := by
    have hadd : (Binary64.Value.finite x).add (.finite w) = Binary64.Value.ofInt (x + w) := by
      rw [Binary64.Value.add, ← Int.cast_add]
      rfl
    exact hadd.trans hsum
  unfold normalized
  split
  · next h =>
    have hneg := (Binary64.Value.lt_zero_iff w).1 h
    have hsize : (Binary64.Value.finite w).neg = .finite (x - (x + w) : Int) := by
      rw [Binary64.Value.neg]
      push_cast
      ring_nf
    rw [hstop, min_eq_right (by omega), max_eq_left (by omega), between]
    exact congrArg (Stretch.mk _) hsize
  · next h =>
    have hpos := mt (Binary64.Value.lt_zero_iff w).2 h
    rw [min_eq_left (by omega), max_eq_right (by omega), between, add_sub_cancel_left]

/-- The stretch of the clip region over a side of `n`. -/
def clip (n : Int) : Stretch Binary64.Value := ⟨.ofInt (-16), .ofInt (n + 32)⟩

theorem stop_eq_add (s : Stretch Binary64.Value) : s.stop = s.start.add s.size := rfl

theorem stands_stop_clip {n : Int} (hn : 0 ≤ n) : (clip n).stop.Stands (n + 16) := by
  rw [stop_eq_add]
  unfold clip
  dsimp only
  exact Binary64.Value.stands_sub hn

theorem start_clip (n : Int) : (clip n).start = .finite (-16 : Int) := by
  unfold clip
  dsimp only
  exact Binary64.Value.ofInt_of_small (by omega)

theorem touches_clip_iff {n : Int} (hn : 0 ≤ n) (hl : l ≤ 2 ^ 52) (hr : r.natAbs ≤ 2 ^ 52) :
    (between l r).touches (clip n) = true ↔ -16 ≤ r ∧ l ≤ n + 16 := by
  have hstart : (clip n).start.atMost (between l r).stop = decide (-16 ≤ r) := by
    rw [start_clip, stop_between (by omega)]
    exact decide_eq_decide.2 Int.cast_le
  have hstop : (between l r).start.atMost (clip n).stop = decide (l ≤ n + 16) :=
    (stands_stop_clip hn).atMost_right hl
  have htouches : (between l r).touches (clip n) =
      (decide ((clip n).start.atMost (between l r).stop = true) &&
        decide ((between l r).start.atMost (clip n).stop = true)) := rfl
  rw [htouches, hstart, hstop]
  simp

theorem ends_between (hlr : l ≤ r) (hr : r.natAbs ≤ 2 ^ 52) :
    (between l r).ends = (.finite l, .finite r) := by
  have hpos := mt (Binary64.Value.lt_zero_iff (r - l)).1 (by omega)
  rw [ends, between, if_neg hpos, ← between, stop_between (by omega), between]

theorem ends_clip {n : Int} (hn : 0 ≤ n) : (clip n).ends = (.finite (-16 : Int), (clip n).stop) := by
  have hstands : (Binary64.Value.ofInt (n + 32)).Stands (n + 32) :=
    Binary64.Value.stands_ofInt (by omega)
  have hless := hstands.less_left (m := 0) (by omega)
  rw [← Binary64.Value.ofInt_zero, decide_eq_false (by omega)] at hless
  unfold ends
  split
  · next h => exact absurd (hless.symm.trans h) (by decide)
  · rw [start_clip]

open scoped Coordinate in
/-- A stretch has no length in common with the clip region just if it has none at all, or if it ends
where the region starts or before that, or the other way round. -/
theorem noLength_iff {n : Int} (hn : 0 ≤ n) (hl : l ≤ 2 ^ 52) :
    ((.finite l : Binary64.Value) = .finite r ∨ (.finite (-16 : Int) : Binary64.Value) =
      (clip n).stop ∨ (clip n).stop ≤ (.finite l : Binary64.Value) ∨
      (.finite r : Binary64.Value) ≤ .finite (-16 : Int)) ↔ l = r ∨ n + 16 ≤ l ∨ r ≤ -16 := by
  have hstands := stands_stop_clip hn
  have hempty : ((.finite l : Binary64.Value) = .finite r) ↔ l = r := by
    rw [Binary64.Value.finite.injEq, Int.cast_inj]
  have hclip : (.finite (-16 : Int) : Binary64.Value) ≠ (clip n).stop := by
    intro h
    have hbehind := hstands.atMost_left (m := -16) (by omega)
    have hsame : (Binary64.Value.finite (-16 : Int)).atMost (.finite (-16 : Int)) = true := by
      simp [Binary64.Value.atMost]
    rw [← h, hsame, eq_comm, decide_eq_true_iff] at hbehind
    omega
  have hafter : (clip n).stop ≤ (.finite l : Binary64.Value) ↔ n + 16 ≤ l := by
    have hle := hstands.atMost_left hl
    exact ⟨fun h => of_decide_eq_true (hle.symm.trans h), fun h => hle.trans (decide_eq_true h)⟩
  have hbefore : (.finite r : Binary64.Value) ≤ .finite (-16 : Int) ↔ r ≤ -16 :=
    decide_eq_true_iff.trans Int.cast_le
  rw [hempty, or_iff_right hclip, hafter, hbefore]

/-- What a stretch has in common with the clip region. -/
theorem meet?_clip {n : Int} (hn : 0 ≤ n) (hlr : l ≤ r) (hr : r.natAbs ≤ 2 ^ 52) :
    (between l r).meet? (clip n) =
      if l < r ∧ -16 < r ∧ l < n + 16 then some (between (max l (-16)) (min r (n + 16)))
      else none := by
  have hiff := noLength_iff (l := l) (r := r) hn (by omega)
  have hlesser := (stands_stop_clip hn).lesser_eq (m := r) (by omega)
  unfold meet?
  rw [ends_between hlr hr, ends_clip hn]
  dsimp only
  split
  · next h =>
    rw [if_neg]
    have := hiff.1 h
    omega
  · next h =>
    have hmeet := mt hiff.2 h
    rw [if_pos (by omega), hlesser, Binary64.Value.greater_finite, between]
    have hsize := Binary64.Value.sub_finite (m := min r (n + 16)) (n := max l (-16)) (by omega)
    exact congrArg (fun size => some (Stretch.mk _ size)) hsize

end Stretch

namespace Box

def left (b : Box) : Int := min b.x (b.x + b.width)

def right (b : Box) : Int := max b.x (b.x + b.width)

def top (b : Box) : Int := min b.y (b.y + b.height)

def bottom (b : Box) : Int := max b.y (b.y + b.height)

def region (b : Box) : Region := ⟨b.left, b.right, b.top, b.bottom⟩

def Moderate (b : Box) : Prop := ∀ n ∈ [b.x, b.y, b.width, b.height], n.natAbs ≤ 2 ^ 51

def Exact (b : Box) : Prop :=
  ∀ n ∈ [b.x, b.y, b.width, b.height, b.x + b.width, b.y + b.height],
    Binary64.Value.ofInt n = .finite n

theorem left_le_right (b : Box) : b.left ≤ b.right := min_le_max

theorem top_le_bottom (b : Box) : b.top ≤ b.bottom := min_le_max

theorem Moderate.right {b : Box} (h : b.Moderate) : b.right.natAbs ≤ 2 ^ 52 := by
  have hx := h b.x (by simp)
  have hw := h b.width (by simp)
  rw [Box.right]
  omega

theorem Moderate.bottom {b : Box} (h : b.Moderate) : b.bottom.natAbs ≤ 2 ^ 52 := by
  have hy := h b.y (by simp)
  have hh := h b.height (by simp)
  rw [Box.bottom]
  omega

theorem Moderate.exact {b : Box} (h : b.Moderate) : b.Exact := by
  intro n hn
  refine Binary64.Value.ofInt_of_small ?_
  simp only [Moderate, List.forall_mem_cons] at h
  simp only [List.mem_cons, List.not_mem_nil, or_false] at hn
  omega

theorem Exact.normalized_frame {b : Box} (h : b.Exact) :
    (b.frame : Frame Binary64.Value).normalized =
      ⟨.between b.left b.right, .between b.top b.bottom⟩ := by
  have hx := Stretch.normalized_of_exact (h b.x (by simp)) (h b.width (by simp)) (h _ (by simp))
  have hy := Stretch.normalized_of_exact (h b.y (by simp)) (h b.height (by simp)) (h _ (by simp))
  rw [Box.left, Box.right, Box.top, Box.bottom, ← hx, ← hy]
  rfl

theorem Moderate.normalized_frame {b : Box} (h : b.Moderate) :
    (b.frame : Frame Binary64.Value).normalized =
      ⟨.between b.left b.right, .between b.top b.bottom⟩ :=
  h.exact.normalized_frame

end Box

def Canvas.region (c : Canvas) : Region := ⟨0, c.width, 0, c.height⟩

/-- What a painter is given to draw, if it is made of numbers. -/
def Frame.region? (f : Frame Binary64.Value) : Option Region :=
  match f with
  | ⟨⟨.finite x, .finite w⟩, ⟨.finite y, .finite h⟩⟩ =>
    some ⟨min x (x + w), max x (x + w), min y (y + h), max y (y + h)⟩
  | _ => none

namespace Region

def Outlines (r : Region) (p : Spot ℝ) : Prop :=
  r.Covers p ∧ (p.x = r.left ∨ p.x = r.right ∨ p.y = r.top ∨ p.y = r.bottom)

def Apart (r s : Region) : Prop :=
  r.right < s.left ∨ s.right < r.left ∨ r.bottom < s.top ∨ s.bottom < r.top

def SharesArea (r s : Region) : Prop :=
  (r.left < r.right ∧ s.left < r.right ∧ r.left < s.right) ∧
    r.top < r.bottom ∧ s.top < r.bottom ∧ r.top < s.bottom

end Region

namespace Canvas

theorem clipFrame_eq (c : Canvas) :
    (c.clipFrame : Frame Binary64.Value) = ⟨Stretch.clip c.width, Stretch.clip c.height⟩ := by
  unfold Stretch.clip
  rfl

theorem apart_clipRegion_iff (c : Canvas) (l r t b : Int) :
    Region.Apart ⟨l, r, t, b⟩ c.clipRegion ↔
      ¬((-16 ≤ r ∧ l ≤ c.width + 16) ∧ -16 ≤ b ∧ t ≤ c.height + 16) := by
  simp only [Region.Apart, clipRegion]
  norm_cast
  omega

theorem apart_iff (c : Canvas) (b : Box) :
    b.region.Apart c.clipRegion ↔
      ¬((-16 ≤ b.right ∧ b.left ≤ c.width + 16) ∧ -16 ≤ b.bottom ∧ b.top ≤ c.height + 16) :=
  c.apart_clipRegion_iff b.left b.right b.top b.bottom

theorem sharesArea_iff (c : Canvas) (b : Box) :
    b.region.SharesArea c.clipRegion ↔
      (b.left < b.right ∧ -16 < b.right ∧ b.left < c.width + 16) ∧
        b.top < b.bottom ∧ -16 < b.bottom ∧ b.top < c.height + 16 := by
  simp only [Region.SharesArea, Box.region, clipRegion]
  norm_cast

def trimmed (c : Canvas) (b : Box) : Frame Binary64.Value :=
  ⟨.between (max b.left (-16)) (min b.right (c.width + 16)),
   .between (max b.top (-16)) (min b.bottom (c.height + 16))⟩

/-- What is painted of a rectangle: nothing, its part in the clip region, or a point. -/
inductive Trims (c : Canvas) (b : Box) : Option (Figure Binary64.Value) → Prop
  | apart : b.region.Apart c.clipRegion → Trims c b none
  | area : b.region.SharesArea c.clipRegion → Trims c b (some (.rectangle (c.trimmed b)))
  | line : ¬b.region.Apart c.clipRegion → ¬b.region.SharesArea c.clipRegion →
      Trims c b (some (.rectangle ⟨Stretch.empty, Stretch.empty⟩))

theorem touches_between_iff (c : Canvas) {l r t b : Int} (hlr : l ≤ r) (htb : t ≤ b)
    (hr : r.natAbs ≤ 2 ^ 52) (hb : b.natAbs ≤ 2 ^ 52) :
    (⟨.between l r, .between t b⟩ : Frame Binary64.Value).touches c.clipFrame = true ↔
      ¬Region.Apart ⟨l, r, t, b⟩ c.clipRegion := by
  rw [clipFrame_eq, Frame.touches, Bool.and_eq_true,
    Stretch.touches_clip_iff c.width_nonneg (by omega) hr,
    Stretch.touches_clip_iff c.height_nonneg (by omega) hb, apart_clipRegion_iff, not_not]

theorem touches_clipFrame_iff (c : Canvas) {b : Box} (hb : b.Moderate) :
    (b.frame : Frame Binary64.Value).normalized.touches c.clipFrame = true ↔
      ¬b.region.Apart c.clipRegion := by
  rw [hb.normalized_frame]
  exact c.touches_between_iff b.left_le_right b.top_le_bottom hb.right hb.bottom

theorem intersected_clipFrame (c : Canvas) {b : Box} (hb : b.Moderate) :
    (b.frame : Frame Binary64.Value).normalized.intersected c.clipFrame = c.trimmed b ∧
        b.region.SharesArea c.clipRegion ∨
      (b.frame : Frame Binary64.Value).normalized.intersected c.clipFrame =
          ⟨Stretch.empty, Stretch.empty⟩ ∧ ¬b.region.SharesArea c.clipRegion := by
  rw [hb.normalized_frame, clipFrame_eq, sharesArea_iff, Frame.intersected,
    Stretch.meet?_clip c.width_nonneg b.left_le_right hb.right,
    Stretch.meet?_clip c.height_nonneg b.top_le_bottom hb.bottom]
  by_cases hacross : b.left < b.right ∧ -16 < b.right ∧ b.left < c.width + 16
  · by_cases hdown : b.top < b.bottom ∧ -16 < b.bottom ∧ b.top < c.height + 16
    · rw [if_pos hacross, if_pos hdown]
      exact Or.inl ⟨rfl, hacross, hdown⟩
    · rw [if_pos hacross, if_neg hdown]
      exact Or.inr ⟨rfl, fun h => hdown h.2⟩
  · rw [if_neg hacross]
    exact Or.inr ⟨rfl, fun h => hacross h.1⟩

theorem trims_rectangle? (c : Canvas) {b : Box} (hb : b.Moderate) :
    c.Trims b (c.rectangle? b) := by
  have htouches := c.touches_clipFrame_iff hb
  unfold rectangle?
  dsimp only
  split
  · next h =>
    rcases c.intersected_clipFrame hb with ⟨hmeet, harea⟩ | ⟨hmeet, hline⟩
    · rw [hmeet]
      exact .area harea
    · rw [hmeet]
      exact .line (htouches.1 h) hline
  · next h => exact .apart (not_not.1 (mt htouches.2 h))

/-- On the canvas nothing shows that a rectangle is trimmed: it is left out just where it would not
show, and what is painted has the same edges and, if it is filled, covers the same. -/
structure TrimsExactly (c : Canvas) (b : Box) (color : PenColor) (filled : Bool) : Prop where
  calls : c.drawRectangle b color filled = [] ∨
    ∃ f, c.drawRectangle b color filled = [.draw (.rectangle f) color filled]
  unpainted : c.drawRectangle b color filled = [] →
    ∀ p, ¬(b.region.Covers p ∧ c.region.Covers p)
  painted : ∀ f, c.drawRectangle b color filled = [.draw (.rectangle f) color filled] →
    ∃ r, f.region? = some r ∧ ∀ p, c.region.Covers p →
      (r.Outlines p ↔ b.region.Outlines p) ∧
        (filled = true → (r.Covers p ↔ b.region.Covers p))

theorem not_covers_of_apart {c : Canvas} {b : Box} (h : b.region.Apart c.clipRegion)
    (p : Spot ℝ) : ¬(b.region.Covers p ∧ c.region.Covers p) := by
  simp only [Region.Apart, clipRegion] at h
  rintro ⟨⟨hl, hr, ht, hb⟩, hl', hr', ht', hb'⟩
  simp only [region, Rat.cast_zero] at hl' hr' ht' hb'
  rcases h with h | h | h | h <;> have h' := (Rat.cast_lt (K := ℝ)).2 h <;> push_cast at h' hr' hb' <;>
    linarith

theorem region?_between {l r t b : Int} (hlr : l ≤ r) (htb : t ≤ b) :
    Frame.region? ⟨.between l r, .between t b⟩ = some ⟨l, r, t, b⟩ := by
  have hlr' : (l : Rat) ≤ r := Int.cast_le.2 hlr
  have htb' : (t : Rat) ≤ b := Int.cast_le.2 htb
  simp only [Frame.region?, Stretch.between]
  push_cast
  rw [add_sub_cancel, add_sub_cancel, min_eq_left hlr', max_eq_right hlr', min_eq_left htb',
    max_eq_right htb']

theorem region?_empty :
    Frame.region? ⟨Stretch.empty, Stretch.empty⟩ = some ⟨0, 0, 0, 0⟩ := by
  have h : (Stretch.empty : Stretch Binary64.Value) = .between 0 0 := by
    unfold Stretch.empty Stretch.between
    exact congr (congrArg Stretch.mk Binary64.Value.ofInt_zero) Binary64.Value.ofInt_zero
  rw [h, region?_between le_rfl le_rfl]
  simp

/-- What is cut off beyond the clip region is not on the canvas, on either side of it. -/
theorem trim_iff {l r n : Int} {x : ℝ} (h0 : 0 ≤ x) (hn : x ≤ n) :
    (((max l (-16) : Int) : ℝ) ≤ x ↔ (l : ℝ) ≤ x) ∧
      (x ≤ ((min r (n + 16) : Int) : ℝ) ↔ x ≤ r) ∧
      (x = ((max l (-16) : Int) : ℝ) ↔ x = l) ∧ (x = ((min r (n + 16) : Int) : ℝ) ↔ x = r) := by
  have hlow : ((max l (-16) : Int) : ℝ) = max (l : ℝ) (-16) := by push_cast; rfl
  have hhigh : ((min r (n + 16) : Int) : ℝ) = min (r : ℝ) (n + 16) := by push_cast; rfl
  rw [hlow, hhigh]
  refine ⟨?_, ?_, ?_, ?_⟩
  · rw [max_le_iff]
    exact and_iff_left (by linarith)
  · rw [le_min_iff]
    exact and_iff_left (by linarith)
  · rcases le_total (-16 : ℝ) l with h | h
    · rw [max_eq_left h]
    · rw [max_eq_right h]
      constructor <;> intro hx <;> linarith
  · rcases le_total (r : ℝ) (n + 16) with h | h
    · rw [min_eq_left h]
    · rw [min_eq_right h]
      constructor <;> intro hx <;> linarith

theorem trimmed_covers_iff {c : Canvas} {b : Box} {p : Spot ℝ} (hp : c.region.Covers p) :
    let r : Region := ⟨(max b.left (-16) : Int), (min b.right (c.width + 16) : Int),
      (max b.top (-16) : Int), (min b.bottom (c.height + 16) : Int)⟩
    (r.Covers p ↔ b.region.Covers p) ∧ (r.Outlines p ↔ b.region.Outlines p) := by
  obtain ⟨hl, hr, ht, hb⟩ := hp
  simp only [region, Rat.cast_zero, Rat.cast_intCast] at hl hr ht hb
  obtain ⟨hleft, hright, hleft', hright'⟩ := trim_iff (l := b.left) (r := b.right) hl hr
  obtain ⟨htop, hbottom, htop', hbottom'⟩ := trim_iff (l := b.top) (r := b.bottom) ht hb
  simp only [Region.Outlines, Region.Covers, Box.region, Rat.cast_intCast]
  rw [hleft, hright, htop, hbottom, hleft', hright', htop', hbottom']
  exact ⟨Iff.rfl, Iff.rfl⟩

def corner : Spot ℝ := ⟨0, 0⟩

theorem covers_corner (c : Canvas) : c.region.Covers corner := by
  simp [Region.Covers, region, corner, c.width_nonneg, c.height_nonneg]

/-- Of a rectangle without an area, or one that only touches the clip region, no more is on the canvas
than edges. -/
theorem outlines_iff_of_line {c : Canvas} {b : Box} (h : ¬b.region.SharesArea c.clipRegion)
    {p : Spot ℝ} (hp : c.region.Covers p) : b.region.Outlines p ↔ b.region.Covers p := by
  refine ⟨And.left, fun hcovers => ⟨hcovers, ?_⟩⟩
  by_contra hout
  obtain ⟨hl, hr, ht, hb⟩ := hcovers
  obtain ⟨hl', hr', ht', hb'⟩ := hp
  simp only [not_or, Box.region, region, Rat.cast_zero, Rat.cast_intCast] at *
  obtain ⟨hneL, hneR, hneT, hneB⟩ := hout
  have hleft := lt_of_le_of_ne hl (Ne.symm hneL)
  have hright := lt_of_le_of_ne hr hneR
  have htop := lt_of_le_of_ne ht (Ne.symm hneT)
  have hbottom := lt_of_le_of_ne hb hneB
  have hacross : b.left < b.right := Int.cast_lt.1 (hleft.trans hright)
  have hdown : b.top < b.bottom := Int.cast_lt.1 (htop.trans hbottom)
  have hpos : 0 < b.right := Int.cast_pos.1 (hl'.trans_lt hright)
  have hpos' : 0 < b.bottom := Int.cast_pos.1 (ht'.trans_lt hbottom)
  have hwidth : b.left < c.width := Int.cast_lt.1 (hleft.trans_le hr')
  have hheight : b.top < c.height := Int.cast_lt.1 (htop.trans_le hb')
  refine h ((sharesArea_iff c b).2 ⟨⟨hacross, ?_, ?_⟩, hdown, ?_, ?_⟩) <;> omega

theorem covers_zero_iff (p : Spot ℝ) : Region.Covers ⟨0, 0, 0, 0⟩ p ↔ p = corner := by
  obtain ⟨x, y⟩ := p
  simp only [Region.Covers, Rat.cast_zero, corner, Spot.mk.injEq]
  constructor
  · rintro ⟨hl, hr, ht, hb⟩
    exact ⟨le_antisymm hr hl, le_antisymm hb ht⟩
  · rintro ⟨rfl, rfl⟩
    exact ⟨le_rfl, le_rfl, le_rfl, le_rfl⟩

theorem outlines_zero_iff (p : Spot ℝ) : Region.Outlines ⟨0, 0, 0, 0⟩ p ↔ p = corner := by
  rw [Region.Outlines, covers_zero_iff]
  refine and_iff_left_of_imp fun h => Or.inl ?_
  rw [h]
  exact Rat.cast_zero.symm

section

variable {c : Canvas} {b : Box} {color : PenColor} {filled : Bool}

theorem trimsExactly_of_none (h : c.rectangle? b = (none : Option (Figure Binary64.Value)))
    (hapart : b.region.Apart c.clipRegion) : c.TrimsExactly b color filled := by
  have hcalls : c.drawRectangle b color filled = [] := by
    rw [drawRectangle, h]
    rfl
  refine ⟨Or.inl hcalls, fun _ => not_covers_of_apart hapart, fun f hf => ?_⟩
  rw [hcalls] at hf
  cases hf

/-- With one call, it is the region of its frame that has to look like that of the box. -/
theorem trimsExactly_iff_of_some {f : Frame Binary64.Value} {r : Region}
    (h : c.rectangle? b = some (.rectangle f)) (hr : f.region? = some r) :
    c.TrimsExactly b color filled ↔ ∀ p, c.region.Covers p →
      (r.Outlines p ↔ b.region.Outlines p) ∧
        (filled = true → (r.Covers p ↔ b.region.Covers p)) := by
  have hcalls : c.drawRectangle b color filled = [.draw (.rectangle f) color filled] := by
    rw [drawRectangle, h]
    rfl
  constructor
  · intro htrims
    obtain ⟨r', hr', hp⟩ := htrims.painted f hcalls
    rw [hr] at hr'
    cases hr'
    exact hp
  · intro hp
    refine ⟨Or.inr ⟨f, hcalls⟩, fun h0 => ?_, fun f' hf' => ?_⟩
    · rw [hcalls] at h0
      cases h0
    · rw [hcalls] at hf'
      cases hf'
      exact ⟨r, hr, hp⟩

theorem trimsExactly_of_area (h : c.rectangle? b = some (.rectangle (c.trimmed b)))
    (harea : b.region.SharesArea c.clipRegion) : c.TrimsExactly b color filled := by
  have hsides := (sharesArea_iff c b).1 harea
  have hwidth := c.width_nonneg
  have hheight := c.height_nonneg
  refine (trimsExactly_iff_of_some h (region?_between (by omega) (by omega))).2 fun p hp => ?_
  obtain ⟨hcovers, houtlines⟩ := trimmed_covers_iff (b := b) hp
  exact ⟨houtlines, fun _ => hcovers⟩

/-- A point at the origin is right just if no more of the rectangle is on the canvas. -/
theorem trimsExactly_iff_of_line
    (h : c.rectangle? b =
      (some (.rectangle ⟨Stretch.empty, Stretch.empty⟩) : Option (Figure Binary64.Value)))
    (hline : ¬b.region.SharesArea c.clipRegion) :
    c.TrimsExactly b color filled ↔
      ∀ p, c.region.Covers p → (b.region.Covers p ↔ p = corner) := by
  rw [trimsExactly_iff_of_some h region?_empty]
  refine forall_congr' fun p => forall_congr' fun hp => ?_
  rw [outlines_zero_iff, covers_zero_iff, outlines_iff_of_line hline hp]
  exact ⟨fun h => h.1.symm, fun h => ⟨h.symm, fun _ => h.symm⟩⟩

theorem rectangle?_of_line (hb : b.Moderate) (hmeets : ¬b.region.Apart c.clipRegion)
    (hline : ¬b.region.SharesArea c.clipRegion) :
    c.rectangle? b =
      (some (.rectangle ⟨Stretch.empty, Stretch.empty⟩) : Option (Figure Binary64.Value)) := by
  generalize hr : (c.rectangle? b : Option (Figure Binary64.Value)) = r
  have htrims := c.trims_rectangle? hb
  rw [hr] at htrims
  cases htrims with
  | apart h => exact absurd h hmeets
  | area h => exact absurd h hline
  | line => rfl

end

/-- Trimming is exact just where a rectangle is apart from the clip region or shares an area with it,
or where nothing of it but the origin is on the canvas. -/
theorem trimming_is_exact_iff (c : Canvas) (b : Box) (color : PenColor) (filled : Bool)
    (hb : b.Moderate) :
    c.TrimsExactly b color filled ↔
      b.region.Apart c.clipRegion ∨ b.region.SharesArea c.clipRegion ∨
        ∀ p, c.region.Covers p → (b.region.Covers p ↔ p = corner) := by
  generalize hr : (c.rectangle? b : Option (Figure Binary64.Value)) = r
  have htrims := c.trims_rectangle? hb
  rw [hr] at htrims
  cases htrims with
  | apart h => exact iff_of_true (trimsExactly_of_none hr h) (Or.inl h)
  | area h => exact iff_of_true (trimsExactly_of_area hr h) (Or.inr (Or.inl h))
  | line hmeets hline =>
    rw [trimsExactly_iff_of_line hr hline]
    simp only [hmeets, hline, false_or]

/-- A bar that is far wider than the canvas, given from its right end. -/
theorem wide_bar_is_trimmed_exactly :
    let c : Canvas := { serial := 0, width := 44, height := 34, background := ⟨255, 255, 255⟩ }
    let b : Box := ⟨2000000000, 10, -4000000000, 5⟩
    b.Moderate ∧ c.TrimsExactly b .red true := by
  intro c b
  have hb : b.Moderate := by
    simp only [Box.Moderate, b]
    decide
  refine ⟨hb, (c.trimming_is_exact_iff b .red true hb).2 (Or.inr (Or.inl ?_))⟩
  exact (sharesArea_iff c b).2 (by decide)

/-- Neither a line in the middle of the canvas nor a square that touches the right end of the margin
is trimmed exactly. -/
theorem touching_is_not_trimmed_exactly :
    let c : Canvas := { serial := 0, width := 100, height := 80, background := ⟨255, 255, 255⟩ }
    (Box.Moderate ⟨50, 10, 0, 20⟩ ∧ ¬c.TrimsExactly ⟨50, 10, 0, 20⟩ .red false) ∧
      Box.Moderate ⟨116, 10, 20, 20⟩ ∧ ¬c.TrimsExactly ⟨116, 10, 20, 20⟩ .red false := by
  intro c
  have hline : Box.Moderate ⟨50, 10, 0, 20⟩ := by
    simp only [Box.Moderate]
    decide
  have hsquare : Box.Moderate ⟨116, 10, 20, 20⟩ := by
    simp only [Box.Moderate]
    decide
  refine ⟨⟨hline, fun h => ?_⟩, hsquare, fun h => ?_⟩
  · have hempty := rectangle?_of_line (c := c) hline (by rw [apart_iff]; decide)
      (by rw [sharesArea_iff]; decide)
    have hend := (trimsExactly_iff_of_line hempty (by rw [sharesArea_iff]; decide)).1 h ⟨50, 20⟩
      (by norm_num [Region.Covers, region, c])
    have hzero : (50 : ℝ) = 0 := congrArg Spot.x (hend.1
      (by norm_num [Region.Covers, Box.region, Box.left, Box.right, Box.top, Box.bottom]))
    norm_num at hzero
  · have hempty := rectangle?_of_line (c := c) hsquare (by rw [apart_iff]; decide)
      (by rw [sharesArea_iff]; decide)
    have hend := (trimsExactly_iff_of_line hempty (by rw [sharesArea_iff]; decide)).1 h corner
      c.covers_corner
    have hcovers := hend.2 rfl
    norm_num [Region.Covers, Box.region, Box.left, Box.right, Box.top, Box.bottom, corner] at hcovers

end Canvas

end Drawboard

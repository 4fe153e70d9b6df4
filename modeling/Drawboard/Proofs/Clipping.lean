import Drawboard.Canvas.Basic
import Mathlib.Data.Real.Basic
import Mathlib.Tactic.Linarith
import Mathlib.Tactic.NormNum
import Mathlib.Tactic.Ring

/-! Clipping of segments in exact arithmetic. What is kept of the way along a segment is the part of
it in the clip region, from the first place in it to the last, and nothing is kept just if no place
on the way is in that region. -/

namespace Drawboard

structure Region where
  left : Rat
  right : Rat
  top : Rat
  bottom : Rat

def Region.Covers (r : Region) (p : Spot ℝ) : Prop :=
  r.left ≤ p.x ∧ p.x ≤ r.right ∧ r.top ≤ p.y ∧ p.y ≤ r.bottom

/-- What a canvas shows and 16 more on each side. -/
def Canvas.clipRegion (c : Canvas) : Region := ⟨-16, c.width + 16, -16, c.height + 16⟩

def Spot.real (s : Spot Rat) : Spot ℝ := ⟨s.x, s.y⟩

/-- The place on the way from `a` to `b` that comes after the part `t` of it. -/
def Point.toward (a b : Point) (t : Rat) : Spot Rat :=
  ⟨a.x + t * (b.x - a.x), a.y + t * (b.y - a.y)⟩

/-- The same for all real parts, so for all places on the segment. -/
noncomputable def Point.towardReal (a b : Point) (t : ℝ) : Spot ℝ :=
  ⟨a.x + t * (b.x - a.x), a.y + t * (b.y - a.y)⟩

theorem Point.real_toward (a b : Point) (t : Rat) : (a.toward b t).real = a.towardReal b t := by
  simp only [Point.toward, Spot.real, Point.towardReal]
  push_cast
  rfl

theorem Coordinate.lt_iff (p q : Rat) : @LT.lt Rat Coordinate.instLT p q ↔ p < q :=
  decide_eq_true_iff

theorem lesser_eq_min (p q : Rat) : lesser p q = min p q := by
  unfold lesser
  split
  · next h => exact (min_eq_right ((Coordinate.lt_iff q p).1 h).le).symm
  · next h => exact (min_eq_left (not_lt.1 (mt (Coordinate.lt_iff q p).2 h))).symm

theorem greater_eq_max (p q : Rat) : greater p q = max p q := by
  unfold greater
  split
  · next h => exact (max_eq_right ((Coordinate.lt_iff p q).1 h).le).symm
  · next h => exact (max_eq_left (not_lt.1 (mt (Coordinate.lt_iff p q).2 h))).symm

theorem travel_of_zero {first last : Rat} {edge : Edge Rat} {edges : List (Edge Rat)}
    (h : edge.toward = 0) :
    travel first last (edge :: edges) =
      if edge.room < 0 then none else travel first last edges := by
  rw [travel, if_pos (show edge.toward = Coordinate.ofInt 0 from h)]
  split
  · next hroom => exact (if_pos ((Coordinate.lt_iff _ _).1 hroom)).symm
  · next hroom => exact (if_neg (mt (Coordinate.lt_iff _ _).2 hroom)).symm

theorem travel_of_neg {first last : Rat} {edge : Edge Rat} {edges : List (Edge Rat)}
    (h : edge.toward < 0) :
    travel first last (edge :: edges) =
      if last < max first (edge.room / edge.toward) then none
      else travel (max first (edge.room / edge.toward)) last edges := by
  have hne : ¬edge.toward = Coordinate.ofInt 0 := h.ne
  have hneg := (Coordinate.lt_iff edge.toward (Coordinate.ofInt 0)).2 h
  rw [travel, if_neg hne]
  dsimp only
  rw [if_pos hneg, if_pos hneg, greater_eq_max]
  split
  · next hlast => exact (if_pos ((Coordinate.lt_iff _ _).1 hlast)).symm
  · next hlast => exact (if_neg (mt (Coordinate.lt_iff _ _).2 hlast)).symm

theorem travel_of_pos {first last : Rat} {edge : Edge Rat} {edges : List (Edge Rat)}
    (h : 0 < edge.toward) :
    travel first last (edge :: edges) =
      if min last (edge.room / edge.toward) < first then none
      else travel first (min last (edge.room / edge.toward)) edges := by
  have hne : ¬edge.toward = Coordinate.ofInt 0 := h.ne'
  have hpos := mt (Coordinate.lt_iff edge.toward (Coordinate.ofInt 0)).1 h.not_gt
  rw [travel, if_neg hne]
  dsimp only
  rw [if_neg hpos, if_neg hpos, lesser_eq_min]
  split
  · next hfirst => exact (if_pos ((Coordinate.lt_iff _ _).1 hfirst)).symm
  · next hfirst => exact (if_neg (mt (Coordinate.lt_iff _ _).2 hfirst)).symm

def Edge.Allows (edge : Edge Rat) (s : ℝ) : Prop := edge.toward * s ≤ edge.room

theorem Edge.allows_of_zero {edge : Edge Rat} (h : edge.toward = 0) (s : ℝ) :
    edge.Allows s ↔ 0 ≤ edge.room := by
  rw [Allows, h, Rat.cast_zero, zero_mul, Rat.cast_nonneg]

theorem Edge.allows_of_neg {edge : Edge Rat} (h : edge.toward < 0) (s : ℝ) :
    edge.Allows s ↔ (edge.room / edge.toward : Rat) ≤ s := by
  rw [Allows, Rat.cast_div, div_le_iff_of_neg (Rat.cast_lt_zero.2 h), mul_comm]

theorem Edge.allows_of_pos {edge : Edge Rat} (h : 0 < edge.toward) (s : ℝ) :
    edge.Allows s ↔ s ≤ (edge.room / edge.toward : Rat) := by
  rw [Allows, Rat.cast_div, le_div_iff₀ (Rat.cast_pos.2 h), mul_comm]

/-- The places of what is left of a way. -/
def Left : Option (Rat × Rat) → ℝ → Prop
  | none, _ => False
  | some (first, last), s => first ≤ s ∧ s ≤ last

/-- What is left of a way when all edges have cut their parts off is what none of them cuts off. -/
theorem left_travel_iff (first last : Rat) (edges : List (Edge Rat)) (s : ℝ) :
    Left (travel first last edges) s ↔
      (first ≤ s ∧ s ≤ last) ∧ ∀ edge ∈ edges, edge.Allows s := by
  induction edges generalizing first last with
  | nil => simp [travel, Left]
  | cons edge edges ih =>
    rw [List.forall_mem_cons]
    rcases lt_trichotomy edge.toward 0 with h | h | h
    · rw [travel_of_neg h, Edge.allows_of_neg h]
      split
      · next hlast =>
        have hlast' : (last : ℝ) < max (first : ℝ) (edge.room / edge.toward : Rat) := by
          rw [← Rat.cast_max]
          exact Rat.cast_lt.2 hlast
        refine iff_of_false id fun ⟨⟨hf, hl⟩, ht, _⟩ => ?_
        exact absurd (hl.trans_lt hlast') (not_lt.2 (max_le hf ht))
      · rw [ih, Rat.cast_max, max_le_iff]
        tauto
    · rw [travel_of_zero h, Edge.allows_of_zero h]
      split
      · next hroom => exact iff_of_false id fun ⟨_, hr, _⟩ => absurd hroom (not_lt.2 hr)
      · next hroom =>
        rw [ih]
        exact and_congr_right fun _ => (and_iff_right (not_lt.1 hroom)).symm
    · rw [travel_of_pos h, Edge.allows_of_pos h]
      split
      · next hfirst =>
        have hfirst' : min (last : ℝ) (edge.room / edge.toward : Rat) < (first : ℝ) := by
          rw [← Rat.cast_min]
          exact Rat.cast_lt.2 hfirst
        refine iff_of_false id fun ⟨⟨hf, hl⟩, ht, _⟩ => ?_
        exact absurd (hfirst'.trans_le hf) (not_lt.2 (le_min hl ht))
      · rw [ih, Rat.cast_min, le_min_iff]
        tauto

theorem le_of_travel {first last : Rat} (h : first ≤ last) {edges : List (Edge Rat)} {t u : Rat}
    (ht : travel first last edges = some (t, u)) : t ≤ u := by
  induction edges generalizing first last with
  | nil =>
    cases ht
    exact h
  | cons edge edges ih =>
    rcases lt_trichotomy edge.toward 0 with he | he | he
    · rw [travel_of_neg he] at ht
      split at ht
      · cases ht
      · next hlast => exact ih (not_lt.1 hlast) ht
    · rw [travel_of_zero he] at ht
      split at ht
      · cases ht
      · exact ih h ht
    · rw [travel_of_pos he] at ht
      split at ht
      · cases ht
      · next hfirst => exact ih (not_lt.1 hfirst) ht

def quotient? (p q : Rat) : Option Rat := if q = 0 then none else some (p / q)

/-- What is left of a way, computed with quotients that may fail. -/
def travel? (first last : Rat) : List (Edge Rat) → Option (Option (Rat × Rat))
  | [] => some (some (first, last))
  | edge :: edges =>
    if edge.toward = 0 then
      if edge.room < 0 then some none else travel? first last edges
    else do
      let t ← quotient? edge.room edge.toward
      let first := if edge.toward < 0 then max first t else first
      let last := if edge.toward < 0 then last else min last t
      if last < first then some none else travel? first last edges

theorem travel?_eq (first last : Rat) (edges : List (Edge Rat)) :
    travel? first last edges = some (travel first last edges) := by
  induction edges generalizing first last with
  | nil => rfl
  | cons edge edges ih =>
    rcases lt_trichotomy edge.toward 0 with h | h | h
    · rw [travel?, if_neg h.ne, quotient?, if_neg h.ne, travel_of_neg h]
      simp only [Option.bind_eq_bind, Option.bind_some, if_pos h, ih]
      split <;> rfl
    · rw [travel?, if_pos h, travel_of_zero h, ih]
      split <;> rfl
    · rw [travel?, if_neg h.ne', quotient?, if_neg h.ne', travel_of_pos h]
      simp only [Option.bind_eq_bind, Option.bind_some, if_neg h.not_gt, ih]
      split <;> rfl

namespace Canvas

def sides (c : Canvas) (a b : Point) : List (Edge Rat) :=
  let clip : Frame Rat := c.clipFrame
  clip.across.edges a.x (b.x - a.x) ++ clip.down.edges a.y (b.y - a.y)

def clipSegment? (c : Canvas) (a b : Point) : Option (Option (Spot Rat × Spot Rat)) :=
  (travel? 0 1 (c.sides a b)).map (·.map fun (t, u) => (a.toward b t, a.toward b u))

theorem clipSegment_eq (c : Canvas) (a b : Point) :
    c.clipSegment a b =
      (travel 0 1 (c.sides a b)).map fun (t, u) => (a.toward b t, a.toward b u) := by
  unfold clipSegment Frame.clip
  dsimp only
  split
  · next t u h => rw [show travel 0 1 (c.sides a b) = some (t, u) from h]; rfl
  · next h => rw [show travel 0 1 (c.sides a b) = none from h]; rfl

theorem sides_eq (c : Canvas) (a b : Point) :
    c.sides a b =
      [⟨-(b.x - a.x), a.x - (-16 : Int)⟩, ⟨b.x - a.x, (-16 : Int) + (c.width + 32 : Int) - a.x⟩,
        ⟨-(b.y - a.y), a.y - (-16 : Int)⟩,
        ⟨b.y - a.y, (-16 : Int) + (c.height + 32 : Int) - a.y⟩] := rfl

/-- No side cuts a place off just if it is in the clip region. -/
theorem allows_sides_iff (c : Canvas) (a b : Point) (s : ℝ) :
    (∀ edge ∈ c.sides a b, edge.Allows s) ↔ c.clipRegion.Covers (a.towardReal b s) := by
  rw [sides_eq]
  simp only [List.forall_mem_cons, List.not_mem_nil, false_imp_iff, implies_true, and_true,
    Edge.Allows, Region.Covers, clipRegion, Point.towardReal]
  push_cast
  constructor
  · rintro ⟨hl, hr, ht, hb⟩
    refine ⟨?_, ?_, ?_, ?_⟩ <;> linarith
  · rintro ⟨hl, hr, ht, hb⟩
    refine ⟨?_, ?_, ?_, ?_⟩ <;> linarith

/-- What is left of the way from one point to another is what is on the segment and in the clip
region. -/
theorem left_sides_iff (c : Canvas) (a b : Point) (s : ℝ) :
    Left (travel 0 1 (c.sides a b)) s ↔
      (0 ≤ s ∧ s ≤ 1) ∧ c.clipRegion.Covers (a.towardReal b s) := by
  rw [left_travel_iff, allows_sides_iff, Rat.cast_zero, Rat.cast_one]

end Canvas

/-- The way back is at the same place after the rest of the parts. -/
theorem Point.towardReal_swap (a b : Point) (s : ℝ) :
    b.towardReal a s = a.towardReal b (1 - s) := by
  simp only [towardReal, Spot.mk.injEq]
  constructor <;> ring

theorem left_swap_iff (c : Canvas) (a b : Point) (s : ℝ) :
    Left (travel 0 1 (c.sides b a)) s ↔ Left (travel 0 1 (c.sides a b)) (1 - s) := by
  rw [Canvas.left_sides_iff, Canvas.left_sides_iff, Point.towardReal_swap]
  refine and_congr_left fun _ => ?_
  constructor <;> rintro ⟨h0, h1⟩ <;> constructor <;> linarith

/-- The way back loses on each end what the way there loses on the other. -/
theorem travel_swap (c : Canvas) (a b : Point) :
    travel 0 1 (c.sides b a) = (travel 0 1 (c.sides a b)).map fun (t, u) => (1 - u, 1 - t) := by
  have hiff := left_swap_iff c a b
  cases hthere : travel 0 1 (c.sides a b) with
  | none =>
    cases hback : travel 0 1 (c.sides b a) with
    | none => rfl
    | some kept =>
      obtain ⟨t, u⟩ := kept
      rw [hthere, hback] at hiff
      exact absurd ⟨le_rfl, Rat.cast_le.2 (le_of_travel zero_le_one hback)⟩ (hiff t).1
  | some kept =>
    obtain ⟨t, u⟩ := kept
    have htu : (t : ℝ) ≤ u := Rat.cast_le.2 (le_of_travel zero_le_one hthere)
    rw [hthere] at hiff
    cases hback : travel 0 1 (c.sides b a) with
    | none =>
      rw [hback] at hiff
      refine absurd ((hiff (1 - t)).2 ?_) id
      rw [sub_sub_cancel]
      exact ⟨le_rfl, htu⟩
    | some kept' =>
      obtain ⟨t', u'⟩ := kept'
      have htu' : (t' : ℝ) ≤ u' := Rat.cast_le.2 (le_of_travel zero_le_one hback)
      rw [hback] at hiff
      obtain ⟨hlow, hlow'⟩ := (hiff t').1 ⟨le_rfl, htu'⟩
      obtain ⟨hhigh, hhigh'⟩ := (hiff u').1 ⟨htu', le_rfl⟩
      have hu : (t' : ℝ) ≤ 1 - u := ((hiff (1 - u)).2 (by
        rw [sub_sub_cancel]
        exact ⟨htu, le_rfl⟩)).1
      have ht : (1 - t : ℝ) ≤ u' := ((hiff (1 - t)).2 (by
        rw [sub_sub_cancel]
        exact ⟨le_rfl, htu⟩)).2
      have hfirst : (t' : ℝ) = ((1 - u : Rat) : ℝ) := by
        push_cast
        linarith
      have hlast : (u' : ℝ) = ((1 - t : Rat) : ℝ) := by
        push_cast
        linarith
      rw [Rat.cast_inj.1 hfirst, Rat.cast_inj.1 hlast]
      rfl

theorem Point.toward_swap (a b : Point) (t : Rat) : b.toward a (1 - t) = a.toward b t := by
  simp only [toward, Spot.mk.injEq]
  constructor <;> ring

theorem clipSegment_swap (c : Canvas) (a b : Point) :
    c.clipSegment b a = (c.clipSegment a b).map fun (p, q) => ((q, p) : Spot Rat × Spot Rat) := by
  rw [c.clipSegment_eq b a, c.clipSegment_eq a b, travel_swap]
  cases travel 0 1 (c.sides a b) with
  | none => rfl
  | some kept =>
    simp only [Option.map_some, Point.toward_swap]

/-- What clipping keeps of a segment: its part in the clip region, from the first place to the last. -/
structure Canvas.Keeps (c : Canvas) (a b : Point) (p q : Spot Rat) : Prop where
  part : ∃ t u : Rat, (0 ≤ t ∧ t ≤ u ∧ u ≤ 1) ∧ p.real = a.towardReal b t ∧
    q.real = a.towardReal b u ∧ ∀ s : ℝ, 0 ≤ s ∧ s ≤ 1 →
      (c.clipRegion.Covers (a.towardReal b s) ↔ t ≤ s ∧ s ≤ u)
  inside : c.clipRegion.Covers p.real ∧ c.clipRegion.Covers q.real
  start : c.clipRegion.Covers (a.spot : Spot Rat).real → p = a.spot
  stop : c.clipRegion.Covers (b.spot : Spot Rat).real → q = b.spot

theorem Point.toward_zero (a b : Point) : a.toward b 0 = a.spot := by
  simp only [toward, zero_mul, add_zero]
  rfl

theorem Point.toward_one (a b : Point) : a.toward b 1 = b.spot := by
  simp only [toward, one_mul, add_sub_cancel]
  rfl

theorem Canvas.keeps_of_travel {c : Canvas} {a b : Point} {t u : Rat}
    (h : travel 0 1 (c.sides a b) = some (t, u)) :
    c.Keeps a b (a.toward b t) (a.toward b u) := by
  have htu := le_of_travel zero_le_one h
  have hiff (s : ℝ) := c.left_sides_iff a b s
  rw [h] at hiff
  obtain ⟨⟨ht0, -⟩, hpin⟩ := (hiff t).1 ⟨le_rfl, Rat.cast_le.2 htu⟩
  obtain ⟨⟨-, hu1⟩, hqin⟩ := (hiff u).1 ⟨Rat.cast_le.2 htu, le_rfl⟩
  rw [← a.real_toward b] at hpin hqin
  have hbounds : 0 ≤ t ∧ t ≤ u ∧ u ≤ 1 := ⟨Rat.cast_nonneg.1 ht0, htu, by exact_mod_cast hu1⟩
  refine ⟨⟨t, u, hbounds, a.real_toward b t, a.real_toward b u, fun s hs => ?_⟩, ⟨hpin, hqin⟩, ?_,
    ?_⟩
  · rw [← and_iff_right hs (b := Region.Covers _ _), ← hiff]
    rfl
  · intro ha
    rw [← a.toward_zero b, a.real_toward b 0, Rat.cast_zero] at ha
    have h0 : (t : ℝ) ≤ 0 := ((hiff 0).2 ⟨⟨le_rfl, zero_le_one⟩, ha⟩).1
    rw [le_antisymm (Rat.cast_nonpos.1 h0) hbounds.1, a.toward_zero]
  · intro hb
    rw [← a.toward_one b, a.real_toward b 1, Rat.cast_one] at hb
    have h1 : (1 : ℝ) ≤ u := ((hiff 1).2 ⟨⟨zero_le_one, le_rfl⟩, hb⟩).2
    rw [le_antisymm hbounds.2.2 (by exact_mod_cast h1), a.toward_one]

/-- Clipping keeps nothing of a segment just if it does not meet the clip region, and else just its
part in that region. It keeps the same of the segment in the other direction, and it never divides
by zero. -/
theorem clipping_keeps_part_inside (c : Canvas) (a b : Point) :
    ((c.clipSegment a b : Option (Spot Rat × Spot Rat)) = none ↔
      ∀ s : ℝ, 0 ≤ s ∧ s ≤ 1 → ¬c.clipRegion.Covers (a.towardReal b s)) ∧
    (∀ p q : Spot Rat, c.clipSegment a b = some (p, q) → c.Keeps a b p q) ∧
    (c.clipSegment b a = (c.clipSegment a b).map fun (p, q) => ((q, p) : Spot Rat × Spot Rat)) ∧
    c.clipSegment? a b = some (c.clipSegment a b) := by
  refine ⟨?_, ?_, clipSegment_swap c a b, ?_⟩
  · rw [c.clipSegment_eq, Option.map_eq_none_iff]
    constructor
    · intro h s hs hin
      have hleft := (c.left_sides_iff a b s).2 ⟨hs, hin⟩
      rw [h] at hleft
      exact hleft
    · intro h
      cases ht : travel 0 1 (c.sides a b) with
      | none => rfl
      | some kept =>
        obtain ⟨t, u⟩ := kept
        have hleft : Left (travel 0 1 (c.sides a b)) t := by
          rw [ht]
          exact ⟨le_rfl, Rat.cast_le.2 (le_of_travel zero_le_one ht)⟩
        obtain ⟨hs, hin⟩ := (c.left_sides_iff a b t).1 hleft
        exact absurd hin (h t hs)
  · intro p q h
    rw [c.clipSegment_eq] at h
    obtain ⟨⟨t, u⟩, ht, hpq⟩ := Option.map_eq_some_iff.1 h
    cases hpq
    exact Canvas.keeps_of_travel ht
  · rw [Canvas.clipSegment?, travel?_eq, Option.map_some, c.clipSegment_eq]

/-- Of a diagonal that starts on a small canvas the way to the margin is kept, and of an edge below
the margin nothing. -/
theorem diagonal_is_kept_up_to_margin :
    let c : Canvas := { serial := 0, width := 52, height := 38, background := ⟨255, 255, 255⟩ }
    (c.clipSegment ⟨10, 10⟩ ⟨510, 1010⟩ = some ((⟨10, 10⟩, ⟨32, 54⟩) : Spot Rat × Spot Rat) ∧
      c.Keeps ⟨10, 10⟩ ⟨510, 1010⟩ ⟨10, 10⟩ ⟨32, 54⟩) ∧
    (c.clipRegion.Covers (Spot.real ⟨10, 10⟩) ∧ Point.spot ⟨10, 10⟩ = (⟨10, 10⟩ : Spot Rat)) ∧
    (c.clipSegment ⟨0, 55⟩ ⟨52, 55⟩ : Option (Spot Rat × Spot Rat)) = none := by
  intro c
  have hsome : c.clipSegment ⟨10, 10⟩ ⟨510, 1010⟩ =
      some ((⟨10, 10⟩, ⟨32, 54⟩) : Spot Rat × Spot Rat) := by decide +kernel
  obtain ⟨-, hkeeps, -⟩ := clipping_keeps_part_inside c ⟨10, 10⟩ ⟨510, 1010⟩
  have hin : c.clipRegion.Covers (Spot.real ⟨10, 10⟩) := by
    norm_num [c, Canvas.clipRegion, Region.Covers, Spot.real]
  refine ⟨⟨hsome, hkeeps _ _ hsome⟩, ⟨hin, ((hkeeps _ _ hsome).start hin).symm⟩, ?_⟩
  refine (clipping_keeps_part_inside c ⟨0, 55⟩ ⟨52, 55⟩).1.2 fun s _ hcovers => ?_
  norm_num [c, Canvas.clipRegion, Region.Covers, Point.towardReal] at hcovers

end Drawboard

import Drawboard.Proofs.Handlers

/-! Which commands break. The pen stays at points of 32-bit coordinates, so no figure but a marker has
a number that is too large for a painter, and a marker has one only if its size is too large already.
Hence only a move can break, and where it goes makes no difference to that. -/

namespace Drawboard

open Binary64

namespace Work

theorem tooLarge_iff (n : Int) : tooLarge n = true ↔ overflow ≤ |Binary64.round n| := by
  rw [le_abs, le_neg]
  simp only [tooLarge, Value.ofInt, Value.ofRat]
  split_ifs with h h'
  · exact iff_of_true rfl (Or.inl h)
  · exact iff_of_true rfl (Or.inr h')
  · exact iff_of_false id (by tauto)

theorem tooLarge_mono {m n : Int} (h : m.natAbs ≤ n.natAbs) (hm : tooLarge m = true) :
    tooLarge n = true := by
  rw [tooLarge_iff] at hm ⊢
  refine hm.trans ?_
  rw [abs_round_intCast, abs_round_intCast]
  have hunits : (nearest (m.natAbs * unitsPerOne) 1 : Rat) ≤ nearest (n.natAbs * unitsPerOne) 1 :=
    Nat.cast_le.2 (nearest_mono (Nat.mul_le_mul_right _ h))
  exact div_le_div_of_nonneg_right hunits (Nat.cast_nonneg _)

/-- The corner of a marker is not too large for a painter unless its side is: it is small, or nearer to
zero than the side is long. -/
theorem tooLarge_corner {x side : Int} (hx : Fits32 x) (hside : tooLarge side = false) :
    tooLarge (x - side / 2) = false := by
  unfold Fits32 at hx
  by_cases hsmall : side.natAbs < 2 ^ 33
  · rw [tooLarge, Value.ofInt_of_small (by omega)]
  · refine Bool.eq_false_of_not_eq_true fun h => ?_
    rw [tooLarge_mono (by omega) h] at hside
    cases hside

end Work

def Point.Fits32 (p : Point) : Prop := Drawboard.Fits32 p.x ∧ Drawboard.Fits32 p.y

namespace Drawing

/-- Markers can be painted: there is a size for them, and it is not too large. -/
def PaintsMarkers (d : Drawing) : Prop :=
  ∃ side, d.markerSize = some side ∧ Work.tooLarge side = false

variable {d : Drawing} {action : Action}

/-- Where the pen is in range, only the size of markers can be out of bounds. -/
theorem bounded_of_fits32 (h : d.pen.position.Fits32) :
    ({ d with markerSize := some 0 } : Drawing).Bounded :=
  ⟨h.1, h.2, rfl, show (-2147483648 : Int) ≤ 0 by decide, show (0 : Int) ≤ 2147483648 by decide⟩

theorem fits32_applyTo (hd : d.pen.position.Fits32) (ha : action.InRange) :
    (action.applyTo d.pen).position.Fits32 := by
  have hb := (bounded_of_fits32 hd).perform ha
  exact ⟨hb.x, hb.y⟩

theorem fault?_of_isMove (hm : action.isMove = true) (hr : action.InRange) :
    d.fault? action = none ↔ d.PaintsMarkers := by
  cases action with
  | moveTo target =>
    have hx := hr target.x (by simp [Action.values])
    have hy := hr target.y (by simp [Action.values])
    cases hsize : d.markerSize with
    | none =>
      have hfault : d.fault? (.moveTo target) = some .noMarkerSize := by simp only [fault?, hsize]
      rw [hfault, PaintsMarkers, hsize]
      exact iff_of_false (Option.some_ne_none _) (by rintro ⟨side, ⟨⟩, -⟩)
    | some side =>
      have hpaints : d.PaintsMarkers ↔ Work.tooLarge side = false := by
        rw [PaintsMarkers, hsize]
        simp
      rw [hpaints, fault?_of_size hsize, Option.map_eq_none_iff]
      simp only [Action.handed, Box.numbers, Box.marker, List.find?_eq_none, List.forall_mem_cons,
        Bool.not_eq_true]
      refine ⟨fun h => h.2.2.1, fun hside => ?_⟩
      exact ⟨Work.tooLarge_corner hx hside, Work.tooLarge_corner hy hside, hside, hside,
        List.forall_mem_nil _⟩
  | _ => cases hm

/-- Nothing but a move breaks while the pen is in range. -/
theorem fault?_of_not_isMove (hm : action.isMove = false) (hd : d.pen.position.Fits32)
    (hr : action.InRange) : d.fault? action = none := by
  have hsame : d.fault? action = ({ d with markerSize := some 0 } : Drawing).fault? action := by
    cases action with
    | moveTo => cases hm
    | _ => rfl
  rw [hsame]
  exact fault?_eq_none (bounded_of_fits32 hd) hr

end Drawing

end Drawboard

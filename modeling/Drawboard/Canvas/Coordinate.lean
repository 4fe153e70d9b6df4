import Drawboard.Binary64.Value

/-!
Numbers that positions on a canvas are computed with. The same computation has two readings: over
binary64 values it is what a painter is given, and over rationals it is exact.
-/

namespace Drawboard

class Coordinate (α : Type) where
  ofInt : Int → α
  add : α → α → α
  sub : α → α → α
  mul : α → α → α
  div : α → α → α
  neg : α → α
  less : α → α → Bool
  atMost : α → α → Bool
  decEq : DecidableEq α

namespace Coordinate

variable {α : Type} [Coordinate α]

scoped instance instAdd : Add α := ⟨add⟩

scoped instance instSub : Sub α := ⟨sub⟩

scoped instance instMul : Mul α := ⟨mul⟩

scoped instance instDiv : Div α := ⟨div⟩

scoped instance instNeg : Neg α := ⟨neg⟩

scoped instance instLT : LT α := ⟨fun a b => less a b = true⟩

scoped instance instLE : LE α := ⟨fun a b => atMost a b = true⟩

scoped instance instDecidableEq : DecidableEq α := decEq

scoped instance instDecidableLT (a b : α) : Decidable (a < b) :=
  inferInstanceAs (Decidable (less a b = true))

scoped instance instDecidableLE (a b : α) : Decidable (a ≤ b) :=
  inferInstanceAs (Decidable (atMost a b = true))

end Coordinate

instance : Coordinate Rat where
  ofInt := Rat.ofInt
  add := Rat.add
  sub := Rat.sub
  mul := Rat.mul
  div := Rat.div
  neg := Rat.neg
  less p q := decide (p < q)
  atMost p q := decide (p ≤ q)
  decEq := inferInstance

instance : Coordinate Binary64.Value where
  ofInt := Binary64.Value.ofInt
  add := Binary64.Value.add
  sub := Binary64.Value.sub
  mul := Binary64.Value.mul
  div := Binary64.Value.div
  neg := Binary64.Value.neg
  less := Binary64.Value.less
  atMost := Binary64.Value.atMost
  decEq := inferInstance

end Drawboard

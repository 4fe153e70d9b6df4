import Drawboard.Proofs.Record

/-! Shapes numbered from another number on. A log goes on in the same way with other numbers, and
but for them it answers the same. Nor does it matter to what is painted which canvas of its size and
background a canvas is. -/

namespace Drawboard

/-- The same shape under an identifier larger by `k`. -/
def Shape.shift (k : Nat) (s : Shape) : Shape := { s with id := s.id + k }

namespace ShapeLog

def shiftIndex (k : Nat) (index : List (Int × List Nat)) : List (Int × List Nat) :=
  index.map fun entry => (entry.1, entry.2.map (· + k))

/-- The log that has come to the same after `k` other shapes. -/
def shift (k : Nat) (log : ShapeLog) : ShapeLog :=
  { shapes := log.shapes.map (·.shift k)
    index := shiftIndex k log.index
    nextId := log.nextId + k }

variable (k : Nat)

theorem enter_shiftIndex (command : Int) (id : Nat) (index : List (Int × List Nat)) :
    enter command (id + k) (shiftIndex k index) = shiftIndex k (enter command id index) := by
  induction index with
  | nil => rfl
  | cons entry rest ih =>
    obtain ⟨c, ids⟩ := entry
    by_cases hc : c = command
    · simp only [shiftIndex, List.map_cons, enter, if_pos hc, List.map_append, List.map_nil]
    · simp only [shiftIndex, List.map_cons, enter, if_neg hc] at ih ⊢
      rw [ih]

theorem add_shift (log : ShapeLog) (command : Int) (sketch : Sketch) :
    (log.shift k).add command sketch = (log.add command sketch).shift k := by
  have hnext : log.nextId + k + 1 = log.nextId + 1 + k := Nat.add_right_comm _ _ _
  simp only [shift, add, enter_shiftIndex, List.map_append, hnext]
  rfl

theorem clear_shift (log : ShapeLog) : (log.shift k).clear = log.clear.shift k := rfl

theorem lookup_shiftIndex (index : List (Int × List Nat)) (command : Int) :
    (shiftIndex k index).lookup command = (index.lookup command).map (·.map (· + k)) := by
  induction index with
  | nil => rfl
  | cons entry rest ih =>
    rw [shiftIndex, List.map_cons, List.lookup_cons, List.lookup_cons]
    cases command == entry.1 with
    | true => rfl
    | false => exact ih

theorem idsOf_shift (log : ShapeLog) (command : Int) :
    (log.shift k).idsOf command = (log.idsOf command).map (· + k) := by
  rw [idsOf, shift, lookup_shiftIndex, idsOf]
  cases log.index.lookup command <;> rfl

theorem forCommand_shift (log : ShapeLog) (command : Int) :
    (log.shift k).forCommand command = (log.forCommand command).map (·.shift k) := by
  have hsame : (fun s : Shape => ((log.idsOf command).map (· + k)).contains (s.shift k).id) =
      fun s => (log.idsOf command).contains s.id := by
    funext s
    rw [Bool.eq_iff_iff, List.contains_iff_mem, List.contains_iff_mem]
    exact List.mem_map_of_injective (add_left_injective k)
  rw [forCommand, idsOf_shift, shift, List.filter_map, forCommand]
  exact congrArg _ (congrArg (log.shapes.filter ·) hsame)

theorem ofKind_shift (log : ShapeLog) (kind : ShapeKind) :
    (log.shift k).ofKind kind = (log.ofKind kind).map (·.shift k) := by
  rw [ofKind, shift, List.filter_map]
  rfl

theorem last?_shift (log : ShapeLog) : (log.shift k).last? = log.last?.map (·.shift k) :=
  List.getLast?_map

theorem extentOf?_map_shift (e : Extent) (shapes : List Shape) :
    extentOf? e (shapes.map (·.shift k)) = extentOf? e shapes := by
  induction shapes generalizing e with
  | nil => rfl
  | cons s rest ih =>
    have hs : (s.shift k).extent? = s.extent? := rfl
    rw [List.map_cons, extentOf?, extentOf?, hs]
    cases s.extent? with
    | none => rfl
    | some f => exact ih (e.join f)

theorem extent?_shift (log : ShapeLog) : (log.shift k).extent? = log.extent? := by
  obtain ⟨shapes, index, nextId⟩ := log
  cases shapes with
  | nil => rfl
  | cons s rest =>
    have hs : (s.shift k).extent? = s.extent? := rfl
    simp only [extent?, shift, List.map_cons, hs]
    cases s.extent? with
    | none => rfl
    | some e => exact extentOf?_map_shift k e rest

theorem counts_shift (log : ShapeLog) : (log.shift k).counts = log.counts := by
  have hkind (kind : ShapeKind) : ((log.shift k).ofKind kind).length = (log.ofKind kind).length := by
    rw [ofKind_shift, List.length_map]
  have hfilled : ((log.shift k).shapes.filter (·.filled)).length =
      (log.shapes.filter (·.filled)).length := by
    rw [shift, List.filter_map, List.length_map]
    rfl
  rw [counts, hfilled, funext hkind]
  simp only [shift, shiftIndex, List.length_map]
  rfl

end ShapeLog

def Canvas.shift (n : Nat) (c : Canvas) : Canvas := { c with serial := c.serial + n }

theorem Canvas.shift_injective (n : Nat) : Function.Injective (Canvas.shift n) := by
  rintro ⟨i, w, h, color, hw, hh⟩ ⟨j, w', h', color', hw', hh'⟩ he
  simp only [Canvas.shift, Canvas.mk.injEq, Nat.add_right_cancel_iff] at he ⊢
  exact he

theorem Canvas.create_add (n serial : Nat) (width height background : Json) (kit : Toolkit) :
    create (serial + n) width height background kit =
      (create serial width height background kit).map (·.shift n) := by
  unfold create
  split
  · split
    · split
      · split <;> rfl
      · rfl
    · rfl
  · rfl

theorem Action.calls_shift (n : Nat) (canvas : Canvas) (pen : Pen) (markerSize : Int)
    (action : Action) :
    action.calls (canvas.shift n) pen markerSize = action.calls canvas pen markerSize := by
  by_cases hne : action = .clear
  · rw [hne]
    rfl
  · exact Action.calls_congr ⟨rfl, rfl⟩ pen markerSize hne

end Drawboard

import Drawboard.Shape.Log
import Mathlib.Algebra.GroupWithZero.Nat
import Mathlib.Data.Finset.Card
import Mathlib.Data.List.Induction

/-! The index of a log. Whatever is done with a log, it holds the last shapes that were entered,
numbered on from all before them, and its index is the one that these shapes make when they are
entered one after another. So the index lists under each command just the shapes held for it. -/

namespace Drawboard

def idsUnder (shapes : List Shape) (command : Int) : List Nat :=
  (shapes.filter (·.command == command)).map (·.id)

theorem idsUnder_concat (shapes : List Shape) (s : Shape) (command : Int) :
    idsUnder (shapes ++ [s]) command =
      if s.command = command then idsUnder shapes command ++ [s.id]
      else idsUnder shapes command := by
  simp only [idsUnder, List.filter_append, List.map_append, List.filter_cons, List.filter_nil,
    beq_iff_eq]
  split
  · rfl
  · rw [List.map_nil, List.append_nil]

theorem idsUnder_eq_nil {shapes : List Shape} {command : Int}
    (h : command ∉ shapes.map (·.command)) : idsUnder shapes command = [] := by
  rw [idsUnder, List.map_eq_nil_iff, List.filter_eq_nil_iff]
  intro s hs hc
  exact h (List.mem_map.2 ⟨s, hs, beq_iff_eq.1 hc⟩)

/-- Every shape is of just one kind. -/
theorem sum_countP_kind (shapes : List Shape) :
    (ShapeKind.all.map fun kind => shapes.countP (·.kind == kind)).sum = shapes.length := by
  induction shapes with
  | nil => rfl
  | cons s shapes ih =>
    rw [List.length_cons, ← ih]
    simp only [ShapeKind.all, List.map_cons, List.map_nil, List.sum_cons, List.sum_nil,
      List.countP_cons]
    cases s.kind <;> simp <;> omega

namespace ShapeLog

theorem lookup_cons_eq_if (c : Int) (ids : List Nat) (rest : List (Int × List Nat)) (n : Int) :
    ((c, ids) :: rest).lookup n = if c = n then some ids else rest.lookup n := by
  rw [List.lookup_cons]
  split
  · next h => rw [if_pos (beq_iff_eq.1 h).symm]
  · next h => rw [if_neg fun hc => by simp [hc] at h]

theorem lookup_enter (command : Int) (id : Nat) (index : List (Int × List Nat)) (n : Int) :
    (enter command id index).lookup n =
      if command = n then some ((index.lookup n).getD [] ++ [id]) else index.lookup n := by
  induction index with
  | nil => rw [enter, lookup_cons_eq_if]; rfl
  | cons entry rest ih =>
    obtain ⟨c, ids⟩ := entry
    rw [enter, lookup_cons_eq_if]
    split
    · next hc =>
      rw [lookup_cons_eq_if, hc]
      split <;> rfl
    · next hc =>
      rw [lookup_cons_eq_if, ih]
      split
      · next hn => rw [if_neg fun h => hc (hn.trans h.symm)]
      · rfl

theorem keys_enter (command : Int) (id : Nat) (index : List (Int × List Nat)) :
    (enter command id index).map (·.1) =
      if command ∈ index.map (·.1) then index.map (·.1) else index.map (·.1) ++ [command] := by
  induction index with
  | nil => rfl
  | cons entry rest ih =>
    obtain ⟨c, ids⟩ := entry
    rw [enter, List.map_cons]
    split
    · next hc =>
      rw [if_pos (hc ▸ List.mem_cons_self)]
      rfl
    · next hc =>
      rw [List.map_cons, ih]
      simp only [List.mem_cons, Ne.symm hc, false_or]
      split <;> rfl

/-- The index that shapes make when they are entered one after another. -/
def indexOf (shapes : List Shape) : List (Int × List Nat) :=
  shapes.foldl (fun index s => enter s.command s.id index) []

theorem indexOf_concat (shapes : List Shape) (s : Shape) :
    indexOf (shapes ++ [s]) = enter s.command s.id (indexOf shapes) := by
  rw [indexOf, List.foldl_append]
  rfl

theorem lookup_indexOf (shapes : List Shape) (n : Int) :
    (indexOf shapes).lookup n =
      if n ∈ shapes.map (·.command) then some (idsUnder shapes n) else none := by
  induction shapes using List.reverseRecOn with
  | nil => rfl
  | append_singleton shapes s ih =>
    rw [indexOf_concat, lookup_enter, idsUnder_concat, ih, List.map_append, List.map_singleton]
    by_cases hs : s.command = n
    · have hmem : n ∈ shapes.map (·.command) ++ [s.command] := by simp [hs]
      rw [if_pos hs, if_pos hmem, if_pos hs]
      split
      · rfl
      · next hn => rw [idsUnder_eq_nil hn]; rfl
    · have hmem : n ∈ shapes.map (·.command) ++ [s.command] ↔ n ∈ shapes.map (·.command) := by
        simp [Ne.symm hs]
      rw [if_neg hs, if_neg hs]
      simp only [hmem]

theorem keys_indexOf (shapes : List Shape) :
    ((indexOf shapes).map (·.1)).Nodup ∧
      ∀ n, n ∈ (indexOf shapes).map (·.1) ↔ n ∈ shapes.map (·.command) := by
  induction shapes using List.reverseRecOn with
  | nil => exact ⟨List.nodup_nil, fun _ => Iff.rfl⟩
  | append_singleton shapes s ih =>
    obtain ⟨hnodup, hmem⟩ := ih
    rw [indexOf_concat, keys_enter, List.map_append, List.map_singleton]
    split
    · next hs =>
      refine ⟨hnodup, fun n => ?_⟩
      rw [hmem, List.mem_append, List.mem_singleton]
      refine ⟨Or.inl, ?_⟩
      rintro (hn | rfl)
      · exact hn
      · exact (hmem _).1 hs
    · next hs =>
      refine ⟨List.concat_eq_append ▸ hnodup.concat hs, fun n => ?_⟩
      rw [List.mem_append, List.mem_append, hmem]

/-- How a log is kept, with as many shapes forgotten as `first`. -/
structure Consistent (log : ShapeLog) (first : Nat) : Prop where
  nextId : log.nextId = first + log.shapes.length
  ids : log.shapes.map (·.id) = List.range' first log.shapes.length
  index : log.index = indexOf log.shapes

theorem Consistent.add {log : ShapeLog} {first : Nat} (h : log.Consistent first) (command : Int)
    (sketch : Sketch) : (log.add command sketch).Consistent first where
  nextId := by
    simp only [ShapeLog.add, h.nextId, List.length_append, List.length_singleton, Nat.add_assoc]
  ids := by
    simp only [ShapeLog.add, List.map_append, List.map_singleton, h.ids, List.length_append,
      List.length_singleton, List.range'_concat, shapeOf, h.nextId, Nat.one_mul]
  index := by
    simp only [ShapeLog.add, indexOf_concat, h.index]
    rfl

theorem consistent_clear (log : ShapeLog) : log.clear.Consistent log.nextId :=
  ⟨rfl, rfl, rfl⟩

theorem Consistent.step {log : ShapeLog} {first : Nat} (h : log.Consistent first) (s : Step) :
    ∃ first, (log.step s).Consistent first := by
  cases s with
  | add command sketch => exact ⟨first, h.add command sketch⟩
  | clear => exact ⟨log.nextId, log.consistent_clear⟩

theorem Consistent.after {log : ShapeLog} {first : Nat} (h : log.Consistent first)
    (steps : List Step) : ∃ first, (log.after steps).Consistent first := by
  induction steps generalizing log first with
  | nil => exact ⟨first, h⟩
  | cons s steps ih =>
    obtain ⟨first, h⟩ := h.step s
    exact ih h

theorem entered_step (log : ShapeLog) (s : Step) :
    (log.step s).shapes <:+ log.shapes ++ (log.entry? s).toList ∧
      (log.step s).nextId = log.nextId + (log.entry? s).toList.length ∧
      (log.entry? s).toList.map (·.id) =
        List.range' log.nextId (log.entry? s).toList.length := by
  cases s with
  | add command sketch => exact ⟨List.suffix_rfl, rfl, rfl⟩
  | clear => exact ⟨List.nil_suffix, rfl, rfl⟩

/-- Shapes are numbered in the order in which they are entered, and those held are the last. -/
theorem entered_after (log : ShapeLog) (steps : List Step) :
    (log.after steps).shapes <:+ log.shapes ++ log.entered steps ∧
      (log.after steps).nextId = log.nextId + (log.entered steps).length ∧
      (log.entered steps).map (·.id) =
        List.range' log.nextId (log.entered steps).length := by
  induction steps generalizing log with
  | nil => exact ⟨by rw [entered, List.append_nil]; exact List.suffix_rfl, rfl, rfl⟩
  | cons s steps ih =>
    obtain ⟨⟨forgotten, hforgotten⟩, hnext, hids⟩ := log.entered_step s
    obtain ⟨hheld', hnext', hids'⟩ := ih (log.step s)
    refine ⟨?_, ?_, ?_⟩
    · refine hheld'.trans ⟨forgotten, ?_⟩
      rw [entered, ← List.append_assoc, hforgotten, List.append_assoc]
    · rw [entered, List.length_append, ← Nat.add_assoc, ← hnext]
      exact hnext'
    · rw [entered, List.map_append, hids, hids', hnext, List.length_append, List.range'_append_1]

variable {log : ShapeLog} {first : Nat}

theorem Consistent.lookup_eq_some_iff (h : log.Consistent first) (n : Int) (ids : List Nat) :
    log.index.lookup n = some ids ↔
      (∃ s ∈ log.shapes, s.command = n) ∧ ids = idsUnder log.shapes n := by
  rw [h.index, lookup_indexOf, Option.ite_none_right_eq_some, List.mem_map, Option.some.injEq,
    eq_comm (a := ids)]

theorem Consistent.idsOf_eq (h : log.Consistent first) (n : Int) :
    log.idsOf n = idsUnder log.shapes n := by
  rw [idsOf, h.index, lookup_indexOf]
  split
  · rfl
  · next hn => exact (idsUnder_eq_nil hn).symm

theorem Consistent.eq_of_id_eq (h : log.Consistent first) {s t : Shape} (hs : s ∈ log.shapes)
    (ht : t ∈ log.shapes) (hid : s.id = t.id) : s = t :=
  List.inj_on_of_nodup_map (by rw [h.ids]; exact List.nodup_range') hs ht hid

/-- No two shapes held have the same identifier, so it does no harm that they are found by these. -/
theorem Consistent.forCommand_eq (h : log.Consistent first) (n : Int) :
    log.forCommand n = log.shapes.filter (·.command == n) := by
  rw [forCommand, h.idsOf_eq]
  refine List.filter_congr fun s hs => ?_
  rw [Bool.eq_iff_iff, List.contains_iff_mem, idsUnder, List.mem_map]
  constructor
  · rintro ⟨t, ht, hid⟩
    obtain ⟨ht, hn⟩ := List.mem_filter.1 ht
    rwa [← h.eq_of_id_eq ht hs hid]
  · intro hn
    exact ⟨s, List.mem_filter.2 ⟨hs, hn⟩, rfl⟩

/-- The counts are those of the shapes held: of all of them, of each kind, of the filled ones, and of
the commands that have drawn them. -/
theorem Consistent.counts_eq (h : log.Consistent first) :
    log.counts =
      { total := log.shapes.length
        ofKind := fun kind => log.shapes.countP (·.kind == kind)
        filled := log.shapes.countP (·.filled)
        commands := (log.shapes.map (·.command)).toFinset.card } := by
  obtain ⟨hnodup, hmem⟩ := keys_indexOf log.shapes
  have hkeys : ((indexOf log.shapes).map (·.1)).toFinset =
      (log.shapes.map (·.command)).toFinset := by
    ext n
    rw [List.mem_toFinset, List.mem_toFinset, hmem]
  simp only [counts, ofKind, List.countP_eq_length_filter, h.index, ← hkeys,
    List.toFinset_card_of_nodup hnodup, List.length_map]

/-- Whatever has been done with a log, the shapes it holds are numbered one after another up to the
last number given out, and of all the shapes ever entered no two got the same number. The index has
an entry for just those commands of which a shape is held, with the numbers of these shapes in order;
so the shapes of a command are found, and the counts are right. -/
theorem index_lists_held_shapes (steps : List Step) :
    let log := ({} : ShapeLog).after steps
    let entered := ({} : ShapeLog).entered steps
    (∃ first, log.shapes.map (·.id) = List.range' first log.shapes.length ∧
        log.nextId = first + log.shapes.length) ∧
      entered.map (·.id) = List.range log.nextId ∧ log.shapes <:+ entered ∧
      (log.index.map (·.1)).Nodup ∧
      (∀ n ids, log.index.lookup n = some ids ↔ (∃ s ∈ log.shapes, s.command = n) ∧
        ids = (log.shapes.filter (·.command == n)).map (·.id)) ∧
      (∀ n, log.forCommand n = log.shapes.filter (·.command == n)) ∧
      log.counts.commands = (log.shapes.map (·.command)).toFinset.card ∧
      (ShapeKind.all.map log.counts.ofKind).sum = log.counts.total := by
  intro log entered
  have hempty : ({} : ShapeLog).Consistent 0 := consistent_clear {}
  obtain ⟨first, h⟩ := hempty.after steps
  obtain ⟨hheld, hnext, hids⟩ := ({} : ShapeLog).entered_after steps
  refine ⟨⟨first, h.ids, h.nextId⟩, ?_, hheld, ?_, h.lookup_eq_some_iff, h.forCommand_eq, ?_, ?_⟩
  · rw [hids, hnext, Nat.zero_add, List.range_eq_range']
  · rw [h.index]
    exact (keys_indexOf log.shapes).1
  · rw [h.counts_eq]
  · rw [h.counts_eq]
    exact sum_countP_kind log.shapes

end ShapeLog

end Drawboard

import Drawboard.ErrorList
import Mathlib.Data.List.Induction
import Mathlib.Data.Prod.Lex

/-! Listing errors. They are listed by line and place, and those at the same place as they were found.
The first error, the errors of one line and whether there is any error can all be told from that
list. -/

namespace Drawboard

section Sorting

variable {α κ : Type} [LinearOrder κ]

/-- A list sorted by a key: it has the same members, their keys ascend, and members with equal keys
stand in the order in which they stood. -/
structure IsSorting (key : α → κ) (l sorted : List α) : Prop where
  perm : sorted.Perm l
  ascending : sorted.Pairwise fun a b => key a ≤ key b
  stable : ∀ k, sorted.filter (key · = k) = l.filter (key · = k)

variable {key : α → κ} {l s t : List α}

theorem mem_of_filter_eq (h : ∀ k, s.filter (key · = k) = t.filter (key · = k)) {a : α}
    (ha : a ∈ s) : a ∈ t := by
  have hmem : a ∈ s.filter (key · = key a) := List.mem_filter.2 ⟨ha, decide_eq_true rfl⟩
  rw [h] at hmem
  exact (List.mem_filter.1 hmem).1

theorem key_head_le {a b : α} (h : (a :: s).Pairwise fun a b => key a ≤ key b)
    (hb : b ∈ a :: s) : key a ≤ key b := by
  rcases List.mem_cons.1 hb with rfl | hb
  · exact le_rfl
  · exact (List.pairwise_cons.1 h).1 b hb

/-- A list with ascending keys is known from its parts with equal keys. -/
theorem eq_of_filter_eq (hs : s.Pairwise fun a b => key a ≤ key b)
    (ht : t.Pairwise fun a b => key a ≤ key b)
    (h : ∀ k, s.filter (key · = k) = t.filter (key · = k)) : s = t := by
  induction s generalizing t with
  | nil =>
    refine (List.eq_nil_iff_forall_not_mem.2 fun b hb => ?_).symm
    cases mem_of_filter_eq (fun k => (h k).symm) hb
  | cons a s ih =>
    cases t with
    | nil => cases mem_of_filter_eq h List.mem_cons_self
    | cons b t =>
      have ha : a ∈ b :: t := mem_of_filter_eq h List.mem_cons_self
      have hb : b ∈ a :: s := mem_of_filter_eq (fun k => (h k).symm) List.mem_cons_self
      have hkey : key a = key b := le_antisymm (key_head_le hs hb) (key_head_le ht ha)
      -- with equal keys in front, the parts of that key begin with both heads
      have hhead := h (key b)
      simp only [List.filter_cons, decide_eq_true_eq, if_pos hkey, if_true] at hhead
      obtain ⟨rfl, hrest⟩ := List.cons_eq_cons.1 hhead
      refine congrArg (a :: ·) (ih hs.of_cons ht.of_cons fun k => ?_)
      have hpart := h k
      simp only [List.filter_cons, decide_eq_true_eq] at hpart
      split at hpart
      · exact (List.cons_eq_cons.1 hpart).2
      · exact hpart

theorem isSorting_mergeSort (key : α → κ) (l : List α) :
    IsSorting key l (l.mergeSort fun a b => key a ≤ key b) := by
  have htrans : ∀ a b c, decide (key a ≤ key b) = true → decide (key b ≤ key c) = true →
      decide (key a ≤ key c) = true := by
    simpa only [decide_eq_true_eq] using fun _ _ _ => le_trans
  have htotal : ∀ a b, (decide (key a ≤ key b) || decide (key b ≤ key a)) = true := by
    simpa only [Bool.or_eq_true, decide_eq_true_eq] using fun a b => le_total (key a) (key b)
  have hperm : (l.mergeSort fun a b => key a ≤ key b).Perm l := List.mergeSort_perm l _
  refine ⟨hperm, (List.pairwise_mergeSort htrans htotal l).imp of_decide_eq_true, fun k => ?_⟩
  -- members with one key are in order already, so sorting leaves them behind one another
  have hordered : (l.filter (key · = k)).Pairwise fun a b => decide (key a ≤ key b) = true := by
    refine List.pairwise_of_forall_mem_list fun a ha b hb => decide_eq_true ?_
    rw [of_decide_eq_true (List.mem_filter.1 ha).2, of_decide_eq_true (List.mem_filter.1 hb).2]
  have hsub := List.sublist_mergeSort htrans htotal hordered List.filter_sublist
  replace hsub := hsub.filter (key · = k)
  rw [List.filter_filter, funext fun a => Bool.and_self _] at hsub
  exact (hsub.eq_of_length (hperm.filter _).length_eq.symm).symm

theorem isSorting_iff : IsSorting key l s ↔ s = l.mergeSort fun a b => key a ≤ key b := by
  have hsorting := isSorting_mergeSort key l
  constructor
  · intro h
    exact eq_of_filter_eq h.ascending hsorting.ascending fun k =>
      (h.stable k).trans (hsorting.stable k).symm
  · rintro rfl
    exact hsorting

/-- A list with ascending keys, cut where a key begins and where it ends. -/
theorem filter_lt_append_eq_append_gt (h : s.Pairwise fun a b => key a ≤ key b) (k : κ) :
    s.filter (key · < k) ++ s.filter (key · = k) ++ s.filter (k < key ·) = s := by
  induction s with
  | nil => rfl
  | cons a s ih =>
    rw [List.pairwise_cons] at h
    obtain ⟨hle, h⟩ := h
    have hnone {k : κ} (hk : k ≤ key a) : s.filter (key · < k) = [] :=
      List.filter_eq_nil_iff.2 fun b hb => mt of_decide_eq_true (hk.trans (hle b hb)).not_gt
    have ih := ih h
    simp only [List.filter_cons, decide_eq_true_eq]
    rcases lt_trichotomy (key a) k with hlt | rfl | hgt
    · rw [if_pos hlt, if_neg hlt.ne, if_neg hlt.not_gt, List.cons_append, List.cons_append, ih]
    · rw [hnone le_rfl, List.nil_append] at ih
      rw [if_neg (lt_irrefl _), if_pos rfl, if_neg (lt_irrefl _), hnone le_rfl, List.nil_append,
        List.cons_append, ih]
    · have hequal : s.filter (key · = k) = [] :=
        List.filter_eq_nil_iff.2 fun b hb =>
          mt of_decide_eq_true (hgt.trans_le (hle b hb)).ne'
      rw [hnone hgt.le, hequal, List.nil_append, List.nil_append] at ih
      rw [if_neg hgt.not_gt, if_neg hgt.ne', if_pos hgt, hnone hgt.le, hequal, List.nil_append,
        List.nil_append, ih]

theorem IsSorting.eq_nil_iff (h : IsSorting key l s) : s = [] ↔ l = [] := by
  rw [← List.length_eq_zero_iff, h.perm.length_eq, List.length_eq_zero_iff]

/-- What comes first once a list is sorted has the least key, and nothing before it had that key. -/
theorem IsSorting.exists_append_of_head? {a : α} (h : IsSorting key l s) (ha : s.head? = some a) :
    ∃ before later, l = before ++ a :: later ∧
      (∀ b ∈ before, key a < key b) ∧ ∀ b ∈ later, key a ≤ key b := by
  obtain ⟨rest, rfl⟩ := List.head?_eq_some_iff.1 ha
  have hleast : ∀ b ∈ l, key a ≤ key b := fun b hb =>
    key_head_le h.ascending (h.perm.mem_iff.2 hb)
  have hpart := (h.stable (key a)).symm
  simp only [List.filter_cons, decide_true, if_true] at hpart
  obtain ⟨before, later, rfl, hbefore, -⟩ := List.filter_eq_cons_iff.1 hpart
  refine ⟨before, later, rfl, fun b hb => ?_, fun b hb => ?_⟩
  · have hne : key b ≠ key a := mt decide_eq_true (hbefore b hb)
    exact lt_of_le_of_ne (hleast b (List.mem_append_left _ hb)) hne.symm
  · exact hleast b (List.mem_append_right _ (List.mem_cons_of_mem _ hb))

theorem IsSorting.head?_of_append {a : α} {before later : List α}
    (h : IsSorting key (before ++ a :: later) s) (hbefore : ∀ b ∈ before, key a < key b)
    (hlater : ∀ b ∈ later, key a ≤ key b) : s.head? = some a := by
  cases s with
  | nil => cases h.perm.mem_iff.2 (List.mem_append_right before List.mem_cons_self)
  | cons b rest =>
    have hba : key b ≤ key a := key_head_le h.ascending (h.perm.mem_iff.2 (by simp))
    have hab : key a ≤ key b := by
      have hb : b ∈ before ++ a :: later := h.perm.mem_iff.1 List.mem_cons_self
      rw [List.mem_append, List.mem_cons] at hb
      rcases hb with hb | rfl | hb
      · exact (hbefore b hb).le
      · exact le_rfl
      · exact hlater b hb
    have hkey : key b = key a := le_antisymm hba hab
    -- both stand at the head of the part with their key
    have hnone : before.filter (key · = key a) = [] :=
      List.filter_eq_nil_iff.2 fun b hb => mt of_decide_eq_true (hbefore b hb).ne'
    have hpart := h.stable (key a)
    rw [List.filter_append, hnone, List.nil_append] at hpart
    simp only [List.filter_cons, decide_eq_true_eq, if_pos hkey, if_true] at hpart
    rw [List.head?_cons, (List.cons_eq_cons.1 hpart).1]

theorem IsSorting.head?_eq_some_iff (h : IsSorting key l s) (a : α) :
    s.head? = some a ↔ ∃ before later, l = before ++ a :: later ∧
      (∀ b ∈ before, key a < key b) ∧ ∀ b ∈ later, key a ≤ key b := by
  refine ⟨h.exists_append_of_head?, ?_⟩
  rintro ⟨before, later, rfl, hbefore, hlater⟩
  exact h.head?_of_append hbefore hlater

end Sorting

namespace ErrorRecord

def place (r : ErrorRecord) : Int ×ₗ Int := toLex (r.line, r.span.start)

theorem notAfter_eq (a b : ErrorRecord) : a.notAfter b = decide (a.place ≤ b.place) := by
  rw [Bool.eq_iff_iff, decide_eq_true_eq, place, place, Prod.Lex.toLex_le_toLex]
  simp [notAfter]

theorem place_eq_iff (r : ErrorRecord) (line start : Int) :
    r.place = toLex (line, start) ↔ r.line = line ∧ r.span.start = start := by
  rw [place, toLex_inj, Prod.mk.injEq]

theorem line_le_of_place_le {a b : ErrorRecord} (h : a.place ≤ b.place) : a.line ≤ b.line := by
  rcases Prod.Lex.toLex_le_toLex.1 h with hlt | ⟨heq, -⟩
  · exact hlt.le
  · exact heq.le

theorem start_le_of_place_le {a b : ErrorRecord} (h : a.place ≤ b.place)
    (hline : a.line = b.line) : a.span.start ≤ b.span.start := by
  rcases Prod.Lex.toLex_le_toLex.1 h with hlt | ⟨-, hle⟩
  · exact absurd hline hlt.ne
  · exact hle

end ErrorRecord

namespace ErrorList

theorem sorted_eq_mergeSort (es : ErrorList) :
    es.sorted = es.records.mergeSort fun a b => a.place ≤ b.place := by
  rw [sorted, funext₂ ErrorRecord.notAfter_eq]

theorem isSorting_sorted (es : ErrorList) : IsSorting ErrorRecord.place es.records es.sorted :=
  isSorting_iff.2 es.sorted_eq_mergeSort

theorem forLine_eq (es : ErrorList) (line : Int) :
    es.forLine line = es.records.filter (·.line = line) := rfl

theorem isSorting_forLine (es : ErrorList) (line : Int) :
    IsSorting (·.span.start) (es.forLine line) (es.sorted.filter (·.line = line)) where
  perm := es.isSorting_sorted.perm.filter _
  ascending := by
    refine (es.isSorting_sorted.ascending.filter _).imp_of_mem fun ha hb hle => ?_
    have hline := (of_decide_eq_true (List.mem_filter.1 ha).2).trans
      (of_decide_eq_true (List.mem_filter.1 hb).2).symm
    exact ErrorRecord.start_le_of_place_le hle hline
  stable start := by
    have hplace (l : List ErrorRecord) :
        (l.filter (·.line = line)).filter (·.span.start = start) =
          l.filter (·.place = toLex (line, start)) := by
      rw [List.filter_filter]
      refine List.filter_congr fun r _ => ?_
      rw [← Bool.decide_and, decide_eq_decide, r.place_eq_iff, and_comm]
    rw [forLine_eq, hplace, hplace, es.isSorting_sorted.stable]

theorem after_concat (es : ErrorList) (steps : List Step) (s : Step) :
    es.after (steps ++ [s]) = (es.after steps).step s := by
  rw [after, List.foldl_append]
  rfl

theorem sinceCleared_concat (steps : List Step) (s : Step) :
    sinceCleared (steps ++ [s]) = if s.record?.isSome then sinceCleared steps ++ [s] else [] := by
  rw [sinceCleared, List.reverse_append, List.reverse_singleton, List.singleton_append,
    List.takeWhile_cons]
  split
  · rw [List.reverse_cons, sinceCleared]
  · rfl

/-- The records held are those added since the list was last cleared, in the order added. -/
theorem records_after (steps : List Step) :
    (({} : ErrorList).after steps).records = (sinceCleared steps).filterMap Step.record? := by
  induction steps using List.reverseRecOn with
  | nil => rfl
  | append_singleton steps s ih =>
    rw [after_concat, sinceCleared_concat]
    cases s with
    | add record =>
      rw [Step.record?, Option.isSome_some, if_pos rfl, List.filterMap_append, ← ih]
      rfl
    | clear => rfl

/-- Whatever has been added to a list of errors since it was last cleared, in whatever order, the
listing has just these records, sorted by line and place. The first error is the earliest added of
those at the least place, the records of a line are one stretch of the listing once they are sorted
by their places, and there are errors if one is listed that is more than a warning. -/
theorem views_agree_with_listing (steps : List Step) :
    let es := ({} : ErrorList).after steps
    es.records = (sinceCleared steps).filterMap Step.record? ∧
      (∀ listed, IsSorting ErrorRecord.place es.records listed ↔ listed = es.sorted) ∧
      (es.first? = none ↔ es.records = []) ∧
      (∀ r, es.first? = some r ↔ ∃ before later, es.records = before ++ r :: later ∧
        (∀ q ∈ before, r.place < q.place) ∧ ∀ q ∈ later, r.place ≤ q.place) ∧
      (∀ line : Int, ∃ before part later, es.sorted = before ++ part ++ later ∧
        (∀ r ∈ before, r.line < line) ∧ (∀ r ∈ part, r.line = line) ∧
        (∀ r ∈ later, line < r.line) ∧
        ∀ listed, IsSorting (·.span.start) (es.forLine line) listed ↔ listed = part) ∧
      (es.hasErrors = true ↔ ∃ r ∈ es.sorted, r.severity = .error) := by
  intro es
  have hsorting := es.isSorting_sorted
  refine ⟨records_after steps, fun listed => ?_, ?_, hsorting.head?_eq_some_iff, fun line => ?_, ?_⟩
  · rw [sorted_eq_mergeSort, isSorting_iff]
  · rw [first?, List.head?_eq_none_iff, hsorting.eq_nil_iff]
  · have hlines : es.sorted.Pairwise fun a b => a.line ≤ b.line :=
      hsorting.ascending.imp ErrorRecord.line_le_of_place_le
    refine ⟨_, _, _, (filter_lt_append_eq_append_gt hlines line).symm,
      fun r hr => of_decide_eq_true (List.mem_filter.1 hr).2,
      fun r hr => of_decide_eq_true (List.mem_filter.1 hr).2,
      fun r hr => of_decide_eq_true (List.mem_filter.1 hr).2, fun listed => ?_⟩
    rw [isSorting_iff, ← isSorting_iff.1 (es.isSorting_forLine line)]
  · rw [hasErrors, List.any_eq_true]
    simp only [beq_iff_eq, hsorting.perm.mem_iff]

/-- Both warnings are at the same place and stay in the order in which they were added. -/
example :
    let found (line start : Int) (message : String) (severity : Severity) : ErrorRecord :=
      { line, span := ⟨start, start + 1⟩, message, kind := .invalidArguments, severity }
    let es := ({} : ErrorList).after [.add (found 7 0 "gone" .error), .clear,
      .add (found 2 4 "b" .warning), .add (found 2 4 "a" .warning), .add (found (-1) 9 "c" .error)]
    es.sorted.map (·.message) = ["c", "b", "a"] ∧ es.first?.map (·.message) = some "c" := by
  cbv

end ErrorList

end Drawboard

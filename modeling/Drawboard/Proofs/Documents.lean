import Drawboard.Proofs.Literals
import Drawboard.Proofs.Numerals

/-! A JSON text that is written in any layout is read back as the value it was written for, and it is
ASCII. Fractions are left out here, and so are numbers of too many digits, and objects in which a key
is repeated. -/

namespace Drawboard.Json

/-- What can be written so that it is read back. -/
inductive Storable : Json → Prop
  | null : Storable .null
  | bool (b : Bool) : Storable (.bool b)
  | int {n : Int} (hn : (Nat.toDigits 10 n.natAbs).length ≤ Numeral.maxDigits) : Storable (.int n)
  | string (units : Units) : Storable (.string units)
  | array {items : List Json} (hitems : ∀ item ∈ items, Storable item) : Storable (.array items)
  | object {members : List (Units × Json)} (hkeys : (members.map (·.1)).Nodup)
      (hmembers : ∀ m ∈ members, Storable m.2) : Storable (.object members)

/-- A layout in which nothing but spaces and line ends stand where a line may break. -/
def LineBreak.Blank (lineBreak : LineBreak) : Prop :=
  ∀ depth, ∀ c ∈ lineBreak depth, isSpace c = true

theorem indented_blank : LineBreak.Blank indented := by
  intro depth c hc
  rcases List.mem_cons.1 hc with rfl | hc
  · rfl
  · rw [(List.mem_replicate.1 hc).2]
    rfl

theorem skip_cons {c : Char} (hc : isSpace c = false) (cs : List Char) :
    skip (c :: cs) = c :: cs := by
  simp [skip, hc]

theorem skip_append {blank : List Char} (hblank : ∀ c ∈ blank, isSpace c = true) {c : Char}
    (hc : isSpace c = false) (cs : List Char) : skip (blank ++ c :: cs) = c :: cs := by
  rw [skip, List.dropWhile_append_of_pos hblank]
  exact skip_cons hc cs

theorem Ends.append {blank rest : List Char} (hblank : ∀ c ∈ blank, isSpace c = true)
    (hrest : Ends rest) : Ends (blank ++ rest) := by
  cases blank with
  | nil => exact hrest
  | cons c tail =>
    rintro _ ⟨⟩
    have hc := hblank c List.mem_cons_self
    simp only [isSpace, Bool.or_eq_true, beq_iff_eq] at hc
    rcases hc with ((rfl | rfl) | rfl) | rfl <;> decide

theorem ends_cons {c : Char} (hc : c ∈ [',', ']', '\x7d']) (rest : List Char) : Ends (c :: rest) := by
  rintro _ ⟨⟩
  simp only [List.mem_cons, List.not_mem_nil, or_false] at hc
  rcases hc with rfl | rfl | rfl <;> decide

theorem render_head {v : Json} (h : Storable v) (lineBreak : LineBreak) (depth : Nat) :
    ∃ c tail, render lineBreak depth v = c :: tail ∧ isSpace c = false ∧ c ≠ ']' := by
  cases h with
  | null => exact ⟨'n', "ull".toList, rfl, by decide⟩
  | bool b =>
    cases b with
    | false => exact ⟨'f', "alse".toList, rfl, by decide⟩
    | true => exact ⟨'t', "rue".toList, rfl, by decide⟩
  | @int n hn =>
    obtain ⟨c, tail, htail, hc⟩ := int_head n
    refine ⟨c, tail, by rw [render, htail], ?_⟩
    rcases hc with rfl | hc
    · decide
    · simp [isSpace, ne_of_isDigit hc]
  | string units => exact ⟨'"', units.flatMap unitText ++ ['"'], by rw [render, stringText], by decide⟩
  | @array items hitems =>
    cases items <;> exact ⟨'[', _, by rw [render], by decide⟩
  | @object members hkeys hmembers =>
    cases members <;> exact ⟨'\x7b', _, by rw [render], by decide⟩

section

variable {fuel : Nat} {cs rest more : List Char} {v : Json}

theorem value?_int {n : Int} (hn : (Nat.toDigits 10 n.natAbs).length ≤ Numeral.maxDigits)
    (hrest : Ends rest) :
    value? (fuel + 1) ((toString n).toList ++ rest) = some (.int n, rest) := by
  obtain ⟨c, digits, hdigits, hc⟩ := int_head n
  have hne (d : Char) (hd : d.isDigit = false) (hsign : '-' ≠ d) (tail : List Char) :
      (toString n).toList ++ rest ≠ d :: tail := by
    intro h
    rw [hdigits] at h
    obtain rfl := (List.cons.inj h).1
    rcases hc with rfl | hc
    · exact hsign rfl
    · exact ne_of_isDigit hc hd rfl
  rw [value?.eq_5 _ _ (hne '"' rfl (by decide)) (hne '[' rfl (by decide))
    (hne '\x7b' rfl (by decide)), scalar?_int hn hrest]

theorem value?_array {items : List Json} (hitems : items? fuel cs = some (items, rest))
    (h : skip more = cs) (hcs : ∀ tail, cs ≠ ']' :: tail) :
    value? (fuel + 1) ('[' :: more) = some (.array items, rest) := by
  rw [value?, h]
  split
  · exact absurd rfl (hcs _)
  · rw [hitems]
    rfl

theorem value?_object {pairs : List (Units × Json)} (hpairs : pairs? fuel cs = some (pairs, rest))
    (h : skip more = cs) (hcs : ∀ tail, cs ≠ '\x7d' :: tail) :
    value? (fuel + 1) ('\x7b' :: more) = some (.object (collect pairs), rest) := by
  rw [value?, h]
  split
  · exact absurd rfl (hcs _)
  · rw [hpairs]
    rfl

theorem items?_last (hv : value? fuel cs = some (v, rest)) (h : skip rest = ']' :: more) :
    items? (fuel + 1) cs = some ([v], more) := by
  simp only [items?, hv, Option.bind_eq_bind, Option.bind_some, h]
  rfl

theorem items?_next (hv : value? fuel cs = some (v, rest)) (h : skip rest = ',' :: more) :
    items? (fuel + 1) cs = (items? fuel (skip more)).map fun read => (v :: read.1, read.2) := by
  simp only [items?, hv, Option.bind_eq_bind, Option.bind_some, h]
  cases items? fuel (skip more) <;> rfl

theorem pairs?_last (key : Units) (hv : value? fuel (skip cs) = some (v, rest))
    (h : skip rest = '\x7d' :: more) :
    pairs? (fuel + 1) (stringText key ++ ':' :: cs) = some ([(key, v)], more) := by
  have hcolon : skip (':' :: cs) = ':' :: cs := skip_cons rfl cs
  simp only [stringText, List.cons_append, List.append_assoc, List.nil_append, pairs?,
    stringRest_stringText, Option.bind_eq_bind, Option.bind_some, hcolon, hv, h]
  rfl

theorem pairs?_next (key : Units) (hv : value? fuel (skip cs) = some (v, rest))
    (h : skip rest = ',' :: more) :
    pairs? (fuel + 1) (stringText key ++ ':' :: cs) =
      (pairs? fuel (skip more)).map fun read => ((key, v) :: read.1, read.2) := by
  have hcolon : skip (':' :: cs) = ':' :: cs := skip_cons rfl cs
  simp only [stringText, List.cons_append, List.append_assoc, List.nil_append, pairs?,
    stringRest_stringText, Option.bind_eq_bind, Option.bind_some, hcolon, hv, h]
  cases pairs? fuel (skip more) <;> rfl

end

theorem put_of_notMem {key : Units} {value : Json} {members : List (Units × Json)}
    (h : key ∉ members.map (·.1)) : put key value members = members ++ [(key, value)] := by
  induction members with
  | nil => rfl
  | cons m members ih =>
    rw [List.map_cons, List.mem_cons, not_or] at h
    rw [put, if_neg (Ne.symm h.1), ih h.2, List.cons_append]

theorem foldl_put {before members : List (Units × Json)}
    (hkeys : ((before ++ members).map (·.1)).Nodup) :
    members.foldl (fun ms m => put m.1 m.2 ms) before = before ++ members := by
  induction members generalizing before with
  | nil => exact (List.append_nil before).symm
  | cons m members ih =>
    have hm : m.1 ∉ before.map (·.1) := by
      rw [List.map_append, List.map_cons] at hkeys
      exact fun hmem => (List.nodup_append.1 hkeys).2.2 _ hmem _ List.mem_cons_self rfl
    rw [List.append_cons] at hkeys
    rw [List.foldl_cons, put_of_notMem hm, ih hkeys, ← List.append_cons]

theorem collect_eq_self {members : List (Units × Json)} (h : (members.map (·.1)).Nodup) :
    collect members = members :=
  foldl_put h

/-- What a value is written as is read as that value, wherever it stands. It starts at its first
character, and not with what would close an array. -/
structure ReadsBack (lineBreak : LineBreak) (v : Json) : Prop where
  head : ∀ depth, ∃ c tail, render lineBreak depth v = c :: tail ∧ isSpace c = false ∧ c ≠ ']'
  value : ∀ depth fuel rest, 2 * (render lineBreak depth v).length ≤ fuel → Ends rest →
    value? fuel (render lineBreak depth v ++ rest) = some (v, rest)

theorem ReadsBack.skip {lineBreak : LineBreak} {v : Json} (h : ReadsBack lineBreak v)
    {blank : List Char} (hblank : ∀ c ∈ blank, isSpace c = true) (depth : Nat) (rest : List Char) :
    skip (blank ++ (render lineBreak depth v ++ rest)) = render lineBreak depth v ++ rest := by
  obtain ⟨c, tail, hhead, hc, -⟩ := h.head depth
  rw [hhead]
  exact skip_append hblank hc (tail ++ rest)

section

variable {lineBreak : LineBreak} (hblank : lineBreak.Blank)

include hblank

theorem items?_render {item : Json} {items : List Json}
    (h : ∀ v ∈ item :: items, ReadsBack lineBreak v) (depth outer fuel : Nat)
    (hfuel : 2 * ((render lineBreak depth item).length +
      (renderItems lineBreak depth items).length + 1) ≤ fuel) (rest : List Char) :
    items? fuel (render lineBreak depth item ++ (renderItems lineBreak depth items ++
      (lineBreak outer ++ ']' :: rest))) = some (item :: items, rest) := by
  obtain ⟨fuel, rfl⟩ := Nat.exists_eq_add_one.2 (show 0 < fuel by omega)
  obtain ⟨hitem, hitems⟩ := List.forall_mem_cons.1 h
  induction items generalizing item fuel with
  | nil =>
    rw [renderItems, List.nil_append]
    have hread := hitem.value depth fuel (lineBreak outer ++ ']' :: rest) (by omega)
      ((ends_cons (by simp) rest).append (hblank outer))
    exact items?_last hread (skip_append (hblank outer) rfl rest)
  | cons next items ih =>
    obtain ⟨hnext, hlater⟩ := List.forall_mem_cons.1 hitems
    rw [renderItems] at hfuel ⊢
    simp only [List.length_cons, List.length_append] at hfuel
    obtain ⟨fuel, rfl⟩ := Nat.exists_eq_add_one.2 (show 0 < fuel by omega)
    have hread := hitem.value depth (fuel + 1) (',' :: (lineBreak depth ++
      (render lineBreak depth next ++ (renderItems lineBreak depth items ++
        (lineBreak outer ++ ']' :: rest))))) (by omega) (ends_cons (by simp) _)
    have hrest := ih hitems fuel (by omega) hnext hlater
    simp only [List.cons_append, List.append_assoc]
    rw [items?_next hread (skip_cons rfl _), hnext.skip (hblank depth), hrest]
    rfl

theorem pairs?_render {m : Units × Json} {members : List (Units × Json)}
    (h : ∀ v ∈ m :: members, ReadsBack lineBreak v.2) (depth outer fuel : Nat)
    (hfuel : 2 * ((render lineBreak depth m.2).length +
      (renderMembers lineBreak depth members).length + 1) ≤ fuel) (rest : List Char) :
    pairs? fuel (stringText m.1 ++ ':' :: ([' '] ++ (render lineBreak depth m.2 ++
      (renderMembers lineBreak depth members ++ (lineBreak outer ++ '\x7d' :: rest))))) =
        some (m :: members, rest) := by
  obtain ⟨fuel, rfl⟩ := Nat.exists_eq_add_one.2 (show 0 < fuel by omega)
  obtain ⟨hm, hmembers⟩ := List.forall_mem_cons.1 h
  have hspace : ∀ c ∈ [' '], isSpace c = true := by simp [isSpace]
  induction members generalizing m fuel with
  | nil =>
    rw [renderMembers, List.nil_append]
    have hread := hm.value depth fuel (lineBreak outer ++ '\x7d' :: rest) (by omega)
      ((ends_cons (by simp) rest).append (hblank outer))
    rw [← hm.skip hspace] at hread
    exact pairs?_last m.1 hread (skip_append (hblank outer) rfl rest)
  | cons next members ih =>
    obtain ⟨hnext, hlater⟩ := List.forall_mem_cons.1 hmembers
    rw [renderMembers] at hfuel ⊢
    simp only [List.length_cons, List.length_append] at hfuel
    obtain ⟨fuel, rfl⟩ := Nat.exists_eq_add_one.2 (show 0 < fuel by omega)
    have hread := hm.value depth (fuel + 1) (',' :: (lineBreak depth ++
      (stringText next.1 ++ ':' :: ([' '] ++ (render lineBreak depth next.2 ++
        (renderMembers lineBreak depth members ++ (lineBreak outer ++ '\x7d' :: rest)))))))
      (by omega) (ends_cons (by simp) _)
    have hrest := ih hmembers fuel (by omega) hnext hlater
    rw [← hm.skip hspace] at hread
    have hkey (cs : List Char) : skip (lineBreak depth ++ (stringText next.1 ++ cs)) =
        stringText next.1 ++ cs := skip_append (hblank depth) rfl _
    have hpairs := pairs?_next m.1 hread (skip_cons rfl _)
    rw [hkey, hrest] at hpairs
    simp only [List.append_assoc, List.cons_append, List.nil_append] at hpairs ⊢
    exact hpairs

omit hblank in
/-- No text of a value is empty, so there is fuel to read it. -/
theorem Storable.readsBack_of {v : Json} (h : Storable v)
    (hvalue : ∀ depth fuel rest, 2 * (render lineBreak depth v).length ≤ fuel + 1 → Ends rest →
      value? (fuel + 1) (render lineBreak depth v ++ rest) = some (v, rest)) :
    ReadsBack lineBreak v := by
  refine ⟨fun depth => render_head h lineBreak depth, fun depth fuel rest hfuel hrest => ?_⟩
  obtain ⟨c, tail, hhead, -⟩ := render_head h lineBreak depth
  have hlength : 0 < (render lineBreak depth v).length := by
    rw [hhead]
    exact Nat.succ_pos _
  obtain ⟨fuel, rfl⟩ := Nat.exists_eq_add_one.2 (show 0 < fuel by omega)
  exact hvalue depth fuel rest hfuel hrest

theorem value?_renderArray {items : List Json} (h : ∀ v ∈ items, ReadsBack lineBreak v)
    (depth : Nat) {fuel : Nat} (hfuel : 2 * (render lineBreak depth (.array items)).length ≤ fuel + 1)
    (rest : List Char) :
    value? (fuel + 1) (render lineBreak depth (.array items) ++ rest) =
      some (.array items, rest) := by
  cases items with
  | nil =>
    rw [render]
    rfl
  | cons item items =>
    rw [render] at hfuel ⊢
    simp only [List.length_cons, List.length_append, List.length_nil] at hfuel
    have hread := items?_render hblank h (depth + 1) depth fuel (by omega) rest
    have hitem := (List.forall_mem_cons.1 h).1
    obtain ⟨c, tail, hhead, -, hc⟩ := hitem.head (depth + 1)
    simp only [List.append_assoc, List.cons_append, List.nil_append]
    refine value?_array hread (hitem.skip (hblank (depth + 1)) (depth + 1) _) fun more hmore => ?_
    rw [hhead] at hmore
    exact hc (List.cons.inj hmore).1

theorem value?_renderObject {members : List (Units × Json)} (hkeys : (members.map (·.1)).Nodup)
    (h : ∀ m ∈ members, ReadsBack lineBreak m.2) (depth : Nat) {fuel : Nat}
    (hfuel : 2 * (render lineBreak depth (.object members)).length ≤ fuel + 1) (rest : List Char) :
    value? (fuel + 1) (render lineBreak depth (.object members) ++ rest) =
      some (.object members, rest) := by
  cases members with
  | nil =>
    rw [render]
    rfl
  | cons m members =>
    rw [render] at hfuel ⊢
    simp only [List.length_cons, List.length_append, List.length_nil] at hfuel
    have hread := pairs?_render hblank h (depth + 1) depth fuel (by omega) rest
    have hobject := value?_object hread (skip_append (hblank (depth + 1)) rfl _)
      fun more hmore => absurd (List.cons.inj hmore).1 (by decide)
    rw [collect_eq_self hkeys] at hobject
    simp only [List.append_assoc, List.cons_append, List.nil_append] at hobject ⊢
    exact hobject

/-- Whatever can be stored is read back: an array or an object because its parts are. -/
theorem Storable.readsBack {v : Json} (h : Storable v) : ReadsBack lineBreak v := by
  induction h with
  | null =>
    refine Storable.null.readsBack_of fun depth fuel rest _ _ => ?_
    rw [render]
    rfl
  | bool b =>
    refine (Storable.bool b).readsBack_of fun depth fuel rest _ _ => ?_
    cases b <;> rfl
  | int hn => exact (Storable.int hn).readsBack_of fun _ _ _ _ hrest => value?_int hn hrest
  | string units =>
    refine (Storable.string units).readsBack_of fun depth fuel rest _ _ => ?_
    rw [render, stringText, List.cons_append, List.append_assoc, List.singleton_append, value?,
      stringRest_stringText]
    rfl
  | array hitems ih =>
    exact (Storable.array hitems).readsBack_of fun depth fuel rest hfuel _ =>
      value?_renderArray hblank ih depth hfuel rest
  | object hkeys hmembers ih =>
    exact (Storable.object hkeys hmembers).readsBack_of fun depth fuel rest hfuel _ =>
      value?_renderObject hblank hkeys ih depth hfuel rest

theorem read?_render {v : Json} (h : Storable v) : read? (render lineBreak 0 v) = some v := by
  have hread := (h.readsBack hblank).value 0 (2 * (render lineBreak 0 v).length + 2) [] (by omega)
    (by rintro _ ⟨⟩)
  obtain ⟨c, tail, hhead, hc, -⟩ := (h.readsBack hblank).head 0
  rw [List.append_nil] at hread
  rw [read?, hhead, skip_cons hc, ← hhead, hread]
  rfl

end

/-- The characters that occur in a text: those of ASCII that can be seen, and line feeds. -/
def Printable (c : Char) : Prop := c = '\n' ∨ 0x20 ≤ c.toNat ∧ c.toNat < 0x7f

instance (c : Char) : Decidable (Printable c) := inferInstanceAs (Decidable (_ ∨ _))

def AllPrintable (cs : List Char) : Prop := ∀ c ∈ cs, Printable c

instance (cs : List Char) : Decidable (AllPrintable cs) := List.decidableBAll Printable cs

@[simp]
theorem allPrintable_append (a b : List Char) :
    AllPrintable (a ++ b) ↔ AllPrintable a ∧ AllPrintable b :=
  List.forall_mem_append

@[simp]
theorem allPrintable_cons (c : Char) (cs : List Char) :
    AllPrintable (c :: cs) ↔ Printable c ∧ AllPrintable cs :=
  List.forall_mem_cons

@[simp]
theorem allPrintable_nil : AllPrintable [] := List.forall_mem_nil _

theorem indented_printable (depth : Nat) : AllPrintable (indented depth) := by
  rw [indented, allPrintable_cons]
  refine ⟨by decide, fun c hc => ?_⟩
  rw [(List.mem_replicate.1 hc).2]
  decide

theorem digitChar_printable : ∀ d < 16, Printable (Nat.digitChar d) := by
  decide

theorem unitText_printable (u : UInt16) : AllPrintable (unitText u) := by
  unfold unitText
  split_ifs with hquote hslash hn hr ht hf hb hplain
  -- the escapes of one letter are closed; a plain character and a hexadecimal escape are left
  any_goals decide
  · simp only [Bool.and_eq_true, decide_eq_true_iff] at hplain
    rw [allPrintable_cons, Printable, toNat_ofNat_of_lt (by omega)]
    exact ⟨Or.inr hplain, allPrintable_nil⟩
  · have hdigit (n : Nat) := digitChar_printable (n % 16) (Nat.mod_lt n (by decide))
    simp only [escapedUnit, allPrintable_cons, hdigit, allPrintable_nil]
    decide

theorem stringText_printable (units : Units) : AllPrintable (stringText units) := by
  simp only [stringText, allPrintable_cons, allPrintable_append, allPrintable_nil]
  refine ⟨by decide, fun c hc => ?_, by decide, trivial⟩
  obtain ⟨u, -, hu⟩ := List.mem_flatMap.1 hc
  exact unitText_printable u c hu

theorem int_printable (n : Int) : AllPrintable (toString n).toList := by
  rw [int_toList, allPrintable_append]
  refine ⟨by split <;> decide, fun d hd => ?_⟩
  obtain ⟨hlow, hhigh⟩ := (isDigit_iff d).1 (isDigit_of_mem_toDigits hd)
  exact Or.inr ⟨le_trans (by decide) hlow, lt_of_le_of_lt hhigh (by decide)⟩

theorem renderItems_printable {items : List Json} {depth : Nat}
    (h : ∀ v ∈ items, AllPrintable (render indented depth v)) :
    AllPrintable (renderItems indented depth items) := by
  induction items with
  | nil => exact allPrintable_nil
  | cons item items ih =>
    obtain ⟨hitem, hitems⟩ := List.forall_mem_cons.1 h
    simp only [renderItems, allPrintable_cons, allPrintable_append]
    exact ⟨by decide, ⟨indented_printable depth, hitem⟩, ih hitems⟩

theorem renderMembers_printable {members : List (Units × Json)} {depth : Nat}
    (h : ∀ m ∈ members, AllPrintable (render indented depth m.2)) :
    AllPrintable (renderMembers indented depth members) := by
  induction members with
  | nil => exact allPrintable_nil
  | cons m members ih =>
    obtain ⟨hm, hmembers⟩ := List.forall_mem_cons.1 h
    simp only [renderMembers, allPrintable_cons, allPrintable_append]
    exact ⟨by decide, ⟨⟨⟨indented_printable depth, stringText_printable m.1⟩, by decide⟩, hm⟩,
      ih hmembers⟩

theorem Storable.allPrintable {v : Json} (h : Storable v) (depth : Nat) :
    AllPrintable (render indented depth v) := by
  induction h generalizing depth with
  | null =>
    rw [render]
    decide
  | bool b =>
    cases b <;> rw [render] <;> decide
  | int hn =>
    rw [render]
    exact int_printable _
  | string units =>
    rw [render]
    exact stringText_printable units
  | @array items hitems ih =>
    cases items with
    | nil =>
      rw [render]
      decide
    | cons item items =>
      obtain ⟨hitem, hitems⟩ := List.forall_mem_cons.1 ih
      simp only [render, allPrintable_cons, allPrintable_append]
      exact ⟨by decide, ⟨⟨⟨indented_printable _, hitem _⟩,
        renderItems_printable fun v hv => hitems v hv _⟩, indented_printable depth⟩, by decide⟩
  | @object members hkeys hmembers ih =>
    cases members with
    | nil =>
      rw [render]
      decide
    | cons m members =>
      obtain ⟨hm, hmembers⟩ := List.forall_mem_cons.1 ih
      simp only [render, allPrintable_cons, allPrintable_append]
      exact ⟨by decide, ⟨⟨⟨⟨⟨indented_printable _, stringText_printable m.1⟩, by decide⟩, hm _⟩,
        renderMembers_printable fun v hv => hmembers v hv _⟩, indented_printable depth⟩, by decide⟩

end Drawboard.Json

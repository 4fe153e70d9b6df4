import Drawboard.Proofs.Programs

/-! Where rejections point. The words of a line stand one after another behind its first blanks, so
the span of a rejection covers what it is about: the first word, if that is no verb, the whole
trimmed line, if the number of arguments is wrong, and else the first argument that does not fit. -/

namespace Drawboard

def Span.slice (span : Span) (line : String) : String :=
  String.ofList ((line.toList.take span.stop.toNat).drop span.start.toNat)

/-- What lies between single spaces in a line without the blanks around it. -/
def pieces (line : String) : List String :=
  ((Text.trim line.toList).splitOn ' ').map String.ofList

/-- The place in a line behind its first blanks and some of its pieces. -/
def placeAfter (line : String) (before : List String) : Nat :=
  Text.indent line.toList + (before.map (·.length + 1)).sum

/-- A rejection tells the first fault of a line and covers it: a first piece that is no verb, a wrong
number of further pieces, or the first of them that does not fit its slot. -/
structure PointsAtFault (line : String) (r : Rejection) : Prop where
  inside : 0 ≤ r.span.start ∧ r.span.start ≤ r.span.stop ∧ r.span.stop ≤ line.length
  unknown : ∀ word arguments, pieces line = word :: arguments →
    (∀ verb : Verb, ¬Spells word verb.name) →
      r.kind = .unknownCommand ∧ r.verb = lowered word ∧ r.span.slice line = word ∧
        r.span.start = placeAfter line []
  arity : ∀ word arguments (verb : Verb), pieces line = word :: arguments →
    Spells word verb.name → arguments.length ≠ verb.arity →
      r.kind = .invalidArguments ∧ r.span.slice line = trimmed line
  argument : ∀ word arguments (verb : Verb), pieces line = word :: arguments →
    Spells word verb.name → arguments.length = verb.arity →
      r.kind = .invalidArguments ∧ ∃ k slot unfit, verb.slots[k]? = some slot ∧
        arguments[k]? = some unfit ∧ (∀ value, ¬Fits slot.kind unfit value) ∧
        (∃ values, FitAll (verb.slots.take k) (arguments.take k) values) ∧
        r.span.slice line = unfit ∧ r.span.start = placeAfter line (word :: arguments.take k)

/-- The span of some characters behind some others. -/
def Span.behind (before marked : List Char) : Span :=
  ⟨(before.length : Nat), (before.length + marked.length : Nat)⟩

theorem Span.slice_behind {line : String} {before marked after : List Char}
    (h : line.toList = before ++ marked ++ after) :
    (Span.behind before marked).slice line = String.ofList marked := by
  have hn : ((before.length : Int) + marked.length).toNat = before.length + marked.length := by omega
  rw [slice, behind, h]
  simp [hn, List.take_append]

theorem Span.behind_inside {line : String} {before marked after : List Char}
    (h : line.toList = before ++ marked ++ after) :
    let span := Span.behind before marked
    0 ≤ span.start ∧ span.start ≤ span.stop ∧ span.stop ≤ line.length := by
  have hl : line.length = before.length + marked.length + after.length := by
    rw [← String.length_toList, h, List.length_append, List.length_append]
  simp only [behind]
  omega

theorem exists_toList_eq (line : String) :
    ∃ after, line.toList =
      line.toList.takeWhile Text.isBlank ++ Text.trim line.toList ++ after := by
  obtain ⟨after, h⟩ := Text.trimRight_prefix (Text.trimLeft line.toList)
  refine ⟨after, ?_⟩
  rw [List.append_assoc, Text.trim, h, Text.trimLeft, List.takeWhile_append_dropWhile]

def spaced (before : List (List Char)) : List Char := before.flatMap (· ++ [' '])

theorem length_spaced (before : List (List Char)) :
    (spaced before).length = (before.map (·.length + 1)).sum := by
  rw [spaced, List.length_flatMap]
  simp

theorem intercalate_eq (before : List (List Char)) (word : List Char) (later : List (List Char)) :
    [' '].intercalate (before ++ word :: later) =
      spaced before ++ word ++ later.flatMap (' ' :: ·) := by
  induction before generalizing word later with
  | nil =>
    induction later generalizing word with
    | nil => simp [spaced, List.intercalate_singleton]
    | cons l ls ih =>
      simp only [List.nil_append] at ih ⊢
      rw [List.intercalate_cons_cons, ih l]
      simp [spaced]
  | cons b before ih =>
    obtain ⟨c, cs, hc⟩ := List.exists_cons_of_ne_nil
      (show before ++ word :: later ≠ [] by simp)
    rw [List.cons_append, hc, List.intercalate_cons_cons, ← hc, ih]
    simp [spaced]

/-- The trimmed text of a line, cut at one of its pieces. -/
theorem trim_eq_of_splitOn {line : String} {before later : List (List Char)} {word : List Char}
    (h : (Text.trim line.toList).splitOn ' ' = before ++ word :: later) :
    Text.trim line.toList = spaced before ++ word ++ later.flatMap (' ' :: ·) := by
  rw [← intercalate_eq, ← h, List.intercalate_splitOn]

namespace Phrase

/-- Each placed word stands behind the words before it, with a space behind each of these. -/
theorem of_place_eq_append {start : Nat} {ws : List (List Char)} {before later : List Token}
    {word : Token} (h : place start ws = before ++ word :: later) :
    ∃ (bs : List (List Char)) (w : List Char) (ls : List (List Char)), ws = bs ++ w :: ls ∧
      before.map (·.text) = bs.map String.ofList ∧
      word = tokenAt (start + (spaced bs).length) w ∧ later.length = ls.length := by
  induction before generalizing start ws with
  | nil =>
    cases ws with
    | nil => cases h
    | cons w ls =>
      obtain ⟨rfl, rfl⟩ := List.cons_eq_cons.1 h
      have hl := congrArg List.length (map_text_place (start + w.length + 1) ls)
      exact ⟨[], w, ls, rfl, rfl, rfl, by simpa using hl⟩
  | cons b before ih =>
    cases ws with
    | nil => cases h
    | cons c ws =>
      obtain ⟨rfl, htail⟩ := List.cons_eq_cons.1 h
      obtain ⟨bs, w, ls, rfl, htext, rfl, hl⟩ := ih htail
      refine ⟨c :: bs, w, ls, rfl, ?_, ?_, hl⟩
      · rw [List.map_cons, List.map_cons, htext, tokenAt]
      · congr 1
        simp [spaced]
        omega

theorem tokens_ofLine (line : String) :
    (ofLine line).tokens =
      place (Text.indent line.toList) ((Text.trim line.toList).splitOn ' ') := by
  have hne := List.splitOn_ne_nil ' ' (Text.trim line.toList)
  rw [tokens, ofLine, ofWords, ← place, List.cons_head_tail]

theorem of_tokens_eq_append {line : String} {before later : List Token} {word : Token}
    (h : (ofLine line).tokens = before ++ word :: later) :
    ∃ (bs : List (List Char)) (w : List Char) (ls : List (List Char)),
      (Text.trim line.toList).splitOn ' ' = bs ++ w :: ls ∧
        before.map (·.text) = bs.map String.ofList ∧ word.text = String.ofList w ∧
        word.span = Span.behind (line.toList.takeWhile Text.isBlank ++ spaced bs) w ∧
        later.length = ls.length := by
  rw [tokens_ofLine] at h
  obtain ⟨bs, w, ls, hws, htext, rfl, hl⟩ := of_place_eq_append h
  refine ⟨bs, w, ls, hws, htext, rfl, ?_, hl⟩
  rw [Span.behind, List.length_append]
  rfl

theorem slice_word {line : String} {before later : List Token} {word : Token}
    (h : (ofLine line).tokens = before ++ word :: later) :
    word.span.slice line = word.text ∧
      (0 ≤ word.span.start ∧ word.span.start ≤ word.span.stop ∧ word.span.stop ≤ line.length) ∧
      word.span.start = placeAfter line (before.map (·.text)) := by
  obtain ⟨bs, w, ls, hws, hbefore, hword, hspan, -⟩ := of_tokens_eq_append h
  obtain ⟨after, hline⟩ := exists_toList_eq line
  rw [trim_eq_of_splitOn hws, ← List.append_assoc, ← List.append_assoc,
    List.append_assoc _ (ls.flatMap _)] at hline
  have hlengths : (bs.map String.ofList).map (·.length + 1) = bs.map (·.length + 1) := by
    rw [List.map_map]
    exact List.map_congr_left fun b _ => by simp
  rw [hspan, hword]
  refine ⟨Span.slice_behind hline, Span.behind_inside hline, ?_⟩
  rw [hbefore, Span.behind, List.length_append, length_spaced, placeAfter, Text.indent, hlengths]

theorem slice_head (line : String) :
    let head := (ofLine line).head
    head.span.slice line = head.text ∧
      (0 ≤ head.span.start ∧ head.span.start ≤ head.span.stop ∧ head.span.stop ≤ line.length) ∧
      head.span.start = placeAfter line [] :=
  slice_word (show (ofLine line).tokens = [] ++ (ofLine line).head :: _ from rfl)

theorem exists_last (p : Phrase) :
    ∃ before last, p.tokens = before ++ [last] ∧ p.stop = last.span.stop := by
  rcases List.eq_nil_or_concat p.arguments with h | ⟨before, last, h⟩
  · exact ⟨[], p.head, by rw [tokens, h]; rfl, by rw [stop, h]; rfl⟩
  · exact ⟨p.head :: before, last, by rw [tokens, h]; simp, by rw [stop, h]; simp⟩

theorem slice_all (line : String) :
    let span : Span := ⟨(ofLine line).head.span.start, (ofLine line).stop⟩
    span.slice line = trimmed line ∧
      0 ≤ span.start ∧ span.start ≤ span.stop ∧ span.stop ≤ line.length := by
  obtain ⟨after, hline⟩ := exists_toList_eq line
  obtain ⟨before, last, htokens, hstop⟩ := (ofLine line).exists_last
  obtain ⟨bs, w, ls, hws, -, -, hlast, hl⟩ := of_tokens_eq_append htokens
  obtain rfl : ls = [] := List.eq_nil_of_length_eq_zero hl.symm
  have htrim := trim_eq_of_splitOn hws
  obtain ⟨-, -, hstart⟩ := slice_head line
  have hspan : (⟨(ofLine line).head.span.start, (ofLine line).stop⟩ : Span) =
      Span.behind (line.toList.takeWhile Text.isBlank) (Text.trim line.toList) := by
    rw [hstart, hstop, hlast, htrim, Span.behind, Span.behind]
    simp [placeAfter, Text.indent]
    omega
  rw [hspan]
  exact ⟨Span.slice_behind hline, Span.behind_inside hline⟩

end Phrase

/-- The first fault of some words, and the rejection that tells it. -/
inductive FirstFault (p : Phrase) : Rejection → Prop
  | unknown : (∀ verb : Verb, ¬Spells p.head.text verb.name) → FirstFault p (.unknownVerb p.head)
  | arity {verb : Verb} : Spells p.head.text verb.name → p.arguments.length ≠ verb.arity →
      FirstFault p (.wrongArity verb p.arguments.length ⟨p.head.span.start, p.stop⟩)
  | argument {verb : Verb} {before later : List Token} {word : Token} {slot : Slot} :
      Spells p.head.text verb.name → p.arguments.length = verb.arity →
      p.arguments = before ++ word :: later → verb.slots[before.length]? = some slot →
      (∃ values, FitAll (verb.slots.take before.length) (before.map (·.text)) values) →
      (∀ value, ¬Fits slot.kind word.text value) → FirstFault p (.badArgument verb slot word)

theorem unfit_of_readArgument {verb : Verb} {slot : Slot} {word : Token} {r : Rejection}
    (h : readArgument verb slot word = .error (.rejected r)) :
    r = .badArgument verb slot word ∧ ∀ value, ¬Fits slot.kind word.text value := by
  constructor
  · unfold readArgument at h
    split at h
    · cases h
    · cases h
      rfl
    · cases h
  · intro value hv
    obtain ⟨v, rfl⟩ := hv.exists_ofKind
    rw [(readArgument_eq_ok_iff verb slot word v).2 hv] at h
    cases h

theorem unfit_of_readArguments {verb : Verb} {slots : List Slot} {words : List Token}
    {hl : words.length = slots.length} {r : Rejection}
    (h : readArguments verb slots words hl = .error (.rejected r)) :
    ∃ before word later slot, words = before ++ word :: later ∧
      slots[before.length]? = some slot ∧
      (∃ values, FitAll (slots.take before.length) (before.map (·.text)) values) ∧
      (∀ value, ¬Fits slot.kind word.text value) ∧ r = .badArgument verb slot word := by
  induction slots generalizing words with
  | nil =>
    match words, hl with
    | [], _ => cases h
  | cons slot slots ih =>
    match words, hl with
    | word :: words, hl =>
      rw [readArguments] at h
      cases hv : readArgument verb slot word with
      | error e =>
        rw [hv] at h
        cases h
        obtain ⟨rfl, hu⟩ := unfit_of_readArgument hv
        exact ⟨[], word, words, slot, rfl, rfl, ⟨[], .nil⟩, hu, rfl⟩
      | ok v =>
        cases hvs : readArguments verb slots words (Nat.succ.inj hl) with
        | error e =>
          simp only [hv, hvs, bind, Except.bind] at h
          cases h
          obtain ⟨before, bad, later, slot', rfl, hslot, ⟨values, hfit⟩, hu, rfl⟩ := ih hvs
          exact ⟨word :: before, bad, later, slot', rfl, hslot,
            ⟨_, .cons ((readArgument_eq_ok_iff _ _ _ _).1 hv) hfit⟩, hu, rfl⟩
        | ok vs =>
          simp only [hv, hvs, bind, Except.bind, pure, Except.pure] at h
          cases h

theorem firstFault_of_parse {line : String} {r : Rejection}
    (h : parse line = .error (.rejected r)) : FirstFault (Phrase.ofLine line) r := by
  unfold parse Phrase.parse at h
  split at h
  · next hverb =>
    cases h
    refine .unknown fun verb hs => ?_
    rw [(Verb.named?_lowered_eq_some_iff _ _).2 hs] at hverb
    cases hverb
  · next verb hverb =>
    have hs := (Verb.named?_lowered_eq_some_iff _ _).1 hverb
    split at h
    · next hl =>
      cases hr : readArguments verb verb.slots _ hl with
      | error e =>
        simp only [hr, bind, Except.bind] at h
        cases h
        obtain ⟨before, word, later, slot, hwords, hslot, hfit, hu, rfl⟩ :=
          unfit_of_readArguments hr
        exact .argument hs hl hwords hslot hfit hu
      | ok vs =>
        simp only [hr, bind, Except.bind, pure, Except.pure] at h
        cases h
    · next hl =>
      cases h
      exact .arity hs hl

theorem Verb.eq_of_spells {word : String} {v w : Verb} (hv : Spells word v.name)
    (hw : Spells word w.name) : v = w := by
  rw [← named?_lowered_eq_some_iff] at hv hw
  exact Option.some.inj (hv.symm.trans hw)

theorem pieces_eq_words (line : String) :
    pieces line = (Phrase.ofLine line).head.text ::
      (Phrase.ofLine line).arguments.map (·.text) :=
  (Phrase.words_ofLine line).symm

theorem FirstFault.pointsAtFault {line : String} {r : Rejection}
    (h : FirstFault (Phrase.ofLine line) r) : PointsAtFault line r := by
  obtain ⟨hslice, hinside, hstart⟩ := Phrase.slice_head line
  -- `pieces line` determines the head and the arguments that each field speaks of.
  have hpieces {word : String} {arguments : List String} (hp : pieces line = word :: arguments) :
      (Phrase.ofLine line).head.text = word ∧
        (Phrase.ofLine line).arguments.map (·.text) = arguments :=
    List.cons_eq_cons.1 ((pieces_eq_words line).symm.trans hp)
  cases h with
  | unknown hno =>
    refine ⟨hinside, fun word arguments hp _ => ?_, fun word arguments verb hp hs => ?_,
      fun word arguments verb hp hs => ?_⟩ <;> obtain ⟨rfl, -⟩ := hpieces hp
    · exact ⟨rfl, rfl, hslice, hstart⟩
    · exact absurd hs (hno verb)
    · exact absurd hs (hno verb)
  | arity hs hl =>
    obtain ⟨hall, hspan⟩ := Phrase.slice_all line
    refine ⟨hspan, fun word arguments hp hno => ?_, fun word arguments verb hp hs' _ => ?_,
      fun word arguments verb hp hs' hl' => ?_⟩ <;> obtain ⟨rfl, rfl⟩ := hpieces hp
    · exact absurd hs (hno _)
    · exact ⟨rfl, hall⟩
    · obtain rfl := Verb.eq_of_spells hs hs'
      exact absurd (by simpa using hl') hl
  | @argument verb before later unfit slot hs hl harguments hslot hfit hu =>
    have htokens : (Phrase.ofLine line).tokens =
        ((Phrase.ofLine line).head :: before) ++ unfit :: later := by
      rw [Phrase.tokens, harguments, List.cons_append]
    obtain ⟨hword, hspan, hplace⟩ := Phrase.slice_word htokens
    refine ⟨hspan, fun word arguments hp hno => ?_, fun word arguments verb' hp hs' hl' => ?_,
      fun word arguments verb' hp hs' hl' => ?_⟩ <;> obtain ⟨rfl, rfl⟩ := hpieces hp
    · exact absurd hs (hno _)
    · obtain rfl := Verb.eq_of_spells hs hs'
      exact absurd (by simpa using hl) hl'
    · obtain rfl := Verb.eq_of_spells hs hs'
      have htake : ((Phrase.ofLine line).arguments.map (·.text)).take before.length =
          before.map (·.text) := by
        rw [harguments, List.map_append]
        exact List.take_left' (List.length_map _)
      refine ⟨rfl, before.length, slot, unfit.text, hslot, ?_, hu, ?_, hword, ?_⟩
      · simp [harguments]
      · rw [htake]
        exact hfit
      · rw [htake]
        exact hplace

theorem exists_rejection_of_recordOf? {text : String} {record : ErrorRecord}
    (h : ∃ l ∈ programLines text, recordOf? l = some record) :
    ∃ (n : Nat) (line : String) (r : Rejection), 1 ≤ n ∧
      (text.toList.splitOn '\n')[n - 1]? = some line.toList ∧
      parse line = .error (.rejected r) ∧ record = r.record n := by
  obtain ⟨⟨n, line⟩, hl, hr⟩ := h
  obtain ⟨hn, hline, -⟩ := (mem_programLines_iff _ _ _).1 hl
  obtain ⟨r, hp, rfl⟩ := Option.map_eq_some_iff.1 hr
  exact ⟨n, line, r, hn, hline, (rejection?_eq_some_iff _ _).1 hp, rfl⟩

/-- A rejection points at the fault it tells, and so does each record that running a program, by
handlers or not, or checking it leaves, in the line of the program that it is recorded for. -/
theorem rejections_point_at_faults (line : String) (s : Session) (text : String) :
    (∀ r, parse line = .error (.rejected r) → PointsAtFault line r) ∧
    ∀ record, record ∈ (s.run text).2.errors.records ∨
        record ∈ (s.dispatchProgram text).2.errors.records ∨
        record ∈ (s.check text).2.errors.records →
      ∃ (n : Nat) (l : String) (r : Rejection), record.line = n ∧ 1 ≤ n ∧
        (text.toList.splitOn '\n')[n - 1]? = some l.toList ∧
        parse l = .error (.rejected r) ∧ record.span = r.span ∧ record.kind = r.kind ∧
        record.message = r.message ∧ PointsAtFault l r := by
  refine ⟨fun r h => (firstFault_of_parse h).pointsAtFault, fun record h => ?_⟩
  have hmem : ∃ l ∈ programLines text, recordOf? l = some record := by
    rw [s.run_eq_runBy, s.dispatchProgram_eq_runBy] at h
    rcases h with h | h | h
    · exact Session.mem_records_runBy Session.faithful_visitExecuted h
    · exact Session.mem_records_runBy Session.faithful_visitDispatched h
    · exact Session.mem_records_check h
  obtain ⟨n, l, r, hn, hline, hp, rfl⟩ := exists_rejection_of_recordOf? hmem
  exact ⟨n, l, r, rfl, hn, hline, hp, rfl, rfl, rfl, (firstFault_of_parse hp).pointsAtFault⟩

/-- The side that two spaces leave empty is pointed at, alone and in the third line of a program. -/
theorem empty_side_is_pointed_at :
    let line := " Triangle 1  2\t"
    let text := String.intercalate "\n" ["circle 5", "", line]
    (∃ r, parse line = .error (.rejected r) ∧ r.span = ⟨12, 12⟩ ∧ PointsAtFault line r) ∧
    ∃ s record, Session.start Preset.square.config = .ok s ∧
      record ∈ (s.run text).2.errors.records ∧ record.line = 3 ∧ record.kind = .invalidArguments ∧
      record.span.slice line = "" := by
  intro line text
  obtain ⟨s, hs⟩ : ∃ s, Session.start Preset.square.config = .ok s := ⟨_, rfl⟩
  obtain ⟨hrejected, hrecords⟩ := rejections_point_at_faults line s text
  have hpieces : pieces line = ["Triangle", "1", "", "2"] := by decide +kernel
  have hverb : Spells "Triangle" Verb.triangle.name := by decide +kernel
  obtain ⟨r, hr⟩ : ∃ r, rejection? line = some r :=
    Option.isSome_iff_exists.1 (by decide +kernel)
  have hspan (r : Rejection) (h : parse line = .error (.rejected r)) : r.span = ⟨12, 12⟩ := by
    have hmap : (rejection? line).map (·.span) = some ⟨12, 12⟩ := by decide +kernel
    rw [(rejection?_eq_some_iff _ _).2 h] at hmap
    exact Option.some.inj hmap
  have hparse := (rejection?_eq_some_iff _ _).1 hr
  refine ⟨⟨r, hparse, hspan r hparse, hrejected r hparse⟩, s, ?_⟩
  · have hlines : (s.run text).2.errors.records.map (·.line) = [3] := by
      cases hs
      decide +kernel
    obtain ⟨record, hmem⟩ := List.exists_mem_of_ne_nil (s.run text).2.errors.records
      (fun h => by rw [h] at hlines; cases hlines)
    have hthree : record.line = 3 := by
      simpa [hlines] using List.mem_map_of_mem (f := (·.line)) hmem
    obtain ⟨n, l, r, hn, -, hl, hp, hsp, hk, -, hpoints⟩ := hrecords record (Or.inl hmem)
    obtain rfl : n = 3 := by omega
    have hthird : (text.toList.splitOn '\n')[2]? = some line.toList := by decide +kernel
    obtain rfl := String.toList_inj.1 (Option.some.inj (hl.symm.trans hthird))
    obtain ⟨hkind, -⟩ := hpoints.argument _ _ _ hpieces hverb rfl
    have hempty : Span.slice ⟨12, 12⟩ line = "" := by decide +kernel
    exact ⟨record, hs, hmem, hthree, hk.trans hkind, by rw [hsp, hspan r hp, hempty]⟩

end Drawboard

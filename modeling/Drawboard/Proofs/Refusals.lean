import Drawboard.Proofs.Drawings

/-! Which integers a line is refused for. If the arguments before it fit their slots, a numeral out
of range has the line rejected. A numeral of more than 4300 digits is not read at all, in range or
not, and the refusal it gives rise to is no rejection; nothing else does that. -/

namespace Drawboard

/-- A word is an optional sign before a row of decimal digits, and they stand for `n`. -/
def SpellsNumber (word : String) (digits : List Char) (n : Int) : Prop :=
  ∃ sign : List Char, word.toList = sign ++ digits ∧
    (sign = [] ∨ sign = ['+'] ∨ sign = ['-']) ∧ 1 ≤ digits.length ∧
    (∀ d ∈ digits, '0' ≤ d ∧ d ≤ '9') ∧
    n = (if sign = ['-'] then -(decimal digits : Int) else decimal digits)

def OutOfRange (word : String) : Prop :=
  ∃ digits n, SpellsNumber word digits n ∧ digits.length ≤ 4300 ∧ ¬Fits32 n

def TooLong (length : Nat) (word : String) : Prop :=
  ∃ digits n, SpellsNumber word digits n ∧ digits.length = length ∧ 4300 < length

/-- As many words as slots, and the first that does not fit is for an integer and is a faulty one. -/
inductive StopsAt (faulty : String → Prop) : List Slot → List String → Prop
  | here {slot : Slot} {slots : List Slot} {word : String} {words : List String} :
      slot.kind = .integer → faulty word → words.length = slots.length →
      StopsAt faulty (slot :: slots) (word :: words)
  | later {slot : Slot} {slots : List Slot} {word : String} {words : List String}
      {value : Value} : Fits slot.kind word value → StopsAt faulty slots words →
      StopsAt faulty (slot :: slots) (word :: words)

/-- A line is a verb with as many arguments as it takes, and they are read up to a faulty integer. -/
def Stuck (faulty : String → Prop) (line : String) : Prop :=
  ∃ (verb : Verb) (word : String) (arguments : List String),
    trimmed line = String.intercalate " " (word :: arguments) ∧
    (∀ w ∈ word :: arguments, ' ' ∉ w.toList) ∧ Spells word verb.name ∧
    StopsAt faulty verb.slots arguments

/-- A line that is read up to a numeral of so many digits that it is not read. -/
def Overlong (line : String) (digits : Nat) : Prop := Stuck (TooLong digits) line

theorem spellsNumber_iff (word : String) (digits : List Char) (n : Int) :
    SpellsNumber word digits n ↔
      ∃ negative, Numeral.of? word = some ⟨negative, digits⟩ ∧
        (Numeral.mk negative digits).value = n := by
  simp only [Numeral.of?, Numeral.ofChars?_eq_some_iff, Numeral.value_eq]
  constructor
  · rintro ⟨sign, hw, hs, hl, hd, rfl⟩
    exact ⟨decide (sign = ['-']), ⟨sign, hw, hs, hl, hd, rfl⟩, by simp⟩
  · rintro ⟨negative, ⟨sign, hw, hs, hl, hd, rfl⟩, rfl⟩
    exact ⟨sign, hw, hs, hl, hd, by simp⟩

theorem readInt_eq_overlong_iff (word : String) (length : Nat) :
    readInt word = .overlong length ↔ TooLong length word := by
  constructor
  · intro h
    unfold readInt at h
    split at h
    · cases h
    · next m hm =>
      split at h
      · next hlong =>
        cases h
        exact ⟨m.digits, m.value, (spellsNumber_iff _ _ _).2 ⟨m.negative, hm, rfl⟩, rfl, hlong⟩
      · split at h <;> cases h
  · rintro ⟨digits, n, hs, rfl, hlong⟩
    obtain ⟨negative, hm, -⟩ := (spellsNumber_iff _ _ _).1 hs
    have hl : Numeral.maxDigits < digits.length := hlong
    simp only [readInt, hm, if_pos hl]

theorem readInt_of_outOfRange {word : String} (h : OutOfRange word) : readInt word = .unfit := by
  obtain ⟨digits, n, hs, hshort, hr⟩ := h
  obtain ⟨negative, hm, rfl⟩ := (spellsNumber_iff _ _ _).1 hs
  have hl : ¬Numeral.maxDigits < digits.length := Nat.not_lt.2 hshort
  simp only [readInt, hm, if_neg hl]
  exact if_neg hr

theorem SlotKind.read_eq_overlong_iff (kind : SlotKind) (word : String) (length : Nat) :
    kind.read word = .overlong length ↔ kind = .integer ∧ TooLong length word := by
  cases kind with
  | integer => exact (readInt_eq_overlong_iff word length).trans (by simp)
  | color =>
    have hne : readColor word ≠ .overlong length := by
      unfold readColor
      split <;> nofun
    exact iff_of_false hne (by simp)
  | switch =>
    have hne : readSwitch word ≠ .overlong length := by
      unfold readSwitch
      split <;> nofun
    exact iff_of_false hne (by simp)

theorem readArgument_eq_overlong_iff (verb : Verb) (slot : Slot) (word : Token) (length : Nat) :
    readArgument verb slot word = .error (.overlong length) ↔
      slot.kind = .integer ∧ TooLong length word.text := by
  rw [← SlotKind.read_eq_overlong_iff, readArgument]
  cases slot.kind.read word.text <;> simp

theorem readArgument_of_outOfRange (verb : Verb) {slot : Slot} {word : Token}
    (hk : slot.kind = .integer) (h : OutOfRange word.text) :
    readArgument verb slot word = .error (.rejected (.badArgument verb slot word)) := by
  have hu : slot.kind.read word.text = .unfit := by
    obtain ⟨name, kind⟩ := slot
    subst hk
    exact readInt_of_outOfRange h
  rw [readArgument, hu]

theorem StopsAt.length_eq {faulty : String → Prop} {slots : List Slot} {words : List String}
    (h : StopsAt faulty slots words) : words.length = slots.length := by
  induction h with
  | here _ _ hl => rw [List.length_cons, List.length_cons, hl]
  | later _ _ ih => rw [List.length_cons, List.length_cons, ih]

theorem readArguments_of_stopsAt {faulty : String → Prop} {refused : Refusal → Prop} (verb : Verb)
    (hbad : ∀ (slot : Slot) (word : Token), slot.kind = .integer → faulty word.text →
      ∃ r, readArgument verb slot word = .error r ∧ refused r)
    (slots : List Slot) (words : List Token) (hl : words.length = slots.length)
    (h : StopsAt faulty slots (words.map (·.text))) :
    ∃ r, readArguments verb slots words hl = .error r ∧ refused r := by
  induction slots generalizing words with
  | nil => cases h
  | cons slot slots ih =>
    match words, hl with
    | word :: words, hl =>
      rw [List.map_cons] at h
      cases h with
      | here hk hf =>
        obtain ⟨r, hr, hp⟩ := hbad slot word hk hf
        exact ⟨r, by rw [readArguments, hr]; rfl, hp⟩
      | later hv hrest =>
        obtain ⟨v, rfl⟩ := hv.exists_ofKind
        have hok := (readArgument_eq_ok_iff verb slot word v).2 hv
        obtain ⟨r, hr, hp⟩ := ih words (Nat.succ.inj hl) hrest
        exact ⟨r, by rw [readArguments, hok]; simp only [bind, Except.bind, hr], hp⟩

theorem stopsAt_of_readArguments (verb : Verb) {length : Nat} {slots : List Slot}
    {words : List Token} (hl : words.length = slots.length)
    (h : readArguments verb slots words hl = .error (.overlong length)) :
    StopsAt (TooLong length) slots (words.map (·.text)) := by
  induction slots generalizing words with
  | nil =>
    match words, hl with
    | [], _ => cases h
  | cons slot slots ih =>
    match words, hl with
    | word :: words, hl =>
      rw [readArguments] at h
      cases hv : readArgument verb slot word with
      | error r =>
        rw [hv] at h
        cases h
        obtain ⟨hk, hf⟩ := (readArgument_eq_overlong_iff _ _ _ _).1 hv
        exact .here hk hf (by simpa using hl)
      | ok v =>
        cases hvs : readArguments verb slots words (Nat.succ.inj hl) with
        | error r =>
          simp only [hv, hvs, bind, Except.bind] at h
          cases h
          exact .later ((readArgument_eq_ok_iff _ _ _ _).1 hv) (ih _ hvs)
        | ok vs =>
          simp only [hv, hvs, bind, Except.bind, pure, Except.pure] at h
          cases h

theorem stuck_iff_words (faulty : String → Prop) (line : String) :
    Stuck faulty line ↔ ∃ verb : Verb, Spells (Phrase.ofLine line).head.text verb.name ∧
      StopsAt faulty verb.slots ((Phrase.ofLine line).arguments.map (·.text)) := by
  constructor
  · rintro ⟨verb, word, arguments, hl, hw, hs, hstop⟩
    obtain ⟨hhead, hargs⟩ := (words_eq_cons_iff _ _ _).1
      (Phrase.words_ofLine_of_intercalate (List.cons_ne_nil _ _) hw hl)
    exact ⟨verb, by rwa [hhead], by rwa [hargs]⟩
  · rintro ⟨verb, hs, hstop⟩
    have hw : (Phrase.ofLine line).words = _ :: _ := rfl
    refine ⟨verb, _, _, ?_, fun w hm => Phrase.not_mem_words_ofLine (hw ▸ hm), hs, hstop⟩
    rw [← hw, Phrase.intercalate_words_ofLine]

theorem parse_of_stuck {faulty : String → Prop} (refused : Refusal → Prop) {line : String}
    (hbad : ∀ (verb : Verb) (slot : Slot) (word : Token), slot.kind = .integer →
      faulty word.text → ∃ r, readArgument verb slot word = .error r ∧ refused r)
    (h : Stuck faulty line) : ∃ r, parse line = .error r ∧ refused r := by
  obtain ⟨verb, hs, hstop⟩ := (stuck_iff_words _ _).1 h
  have hl : (Phrase.ofLine line).arguments.length = verb.slots.length := by
    simpa using hstop.length_eq
  obtain ⟨r, hr, hp⟩ := readArguments_of_stopsAt verb (hbad verb) _ _ hl hstop
  refine ⟨r, ?_, hp⟩
  unfold parse
  simp only [Phrase.parse, (Verb.named?_lowered_eq_some_iff _ _).2 hs, dif_pos hl, hr, bind,
    Except.bind]

theorem parse_eq_overlong_iff (line : String) (digits : Nat) :
    parse line = .error (.overlong digits) ↔ Overlong line digits := by
  constructor
  · intro h
    unfold parse Phrase.parse at h
    split at h
    · cases h
    · next verb hverb =>
      have hs := (Verb.named?_lowered_eq_some_iff _ _).1 hverb
      split at h
      · next hl =>
        refine (stuck_iff_words _ _).2 ⟨verb, hs, stopsAt_of_readArguments verb hl ?_⟩
        cases hr : readArguments verb verb.slots _ hl with
        | error r =>
          simp only [hr, bind, Except.bind] at h
          cases h
          rfl
        | ok vs =>
          simp only [hr, bind, Except.bind, pure, Except.pure] at h
          cases h
      · cases h
  · intro h
    obtain ⟨r, hr, rfl⟩ := parse_of_stuck (· = .overlong digits)
      (fun verb slot word hk hf =>
        ⟨_, (readArgument_eq_overlong_iff verb slot word digits).2 ⟨hk, hf⟩, rfl⟩) h
    exact hr

theorem parse_of_outOfRange {line : String} (h : Stuck OutOfRange line) :
    ∃ r, parse line = .error (.rejected r) ∧ r.kind = .invalidArguments := by
  obtain ⟨_, hr, r, rfl, hk⟩ :=
    parse_of_stuck (fun r => ∃ r', r = .rejected r' ∧ r'.kind = .invalidArguments)
      (fun verb slot word hk hf =>
        ⟨_, readArgument_of_outOfRange verb hk hf, _, rfl, rfl⟩) h
  exact ⟨r, hr, hk⟩

end Drawboard

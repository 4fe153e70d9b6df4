import Drawboard.Command.Parse
import Drawboard.Proofs.Lowering
import Drawboard.Proofs.Numerals
import Drawboard.Proofs.Phrases

/-! The language of command lines, said without the parser, and that the parser reads it: a line is
accepted exactly if its trimmed text is a sentence, and then the command has the sentence's values. -/

namespace Drawboard

/-- A word is one that a slot of a kind takes, and it says that value. -/
inductive Fits : SlotKind → String → Value → Prop
  | integer {word : String} {n : Int} : SpellsInt word n → Fits .integer word (.integer n)
  | color {word : String} {c : PenColor} :
      c ∈ PenColor.choices → Spells word c.name → Fits .color word (.color c)
  | switch {word : String} {on : Bool} :
      Spells word (switchName on) → Fits .switch word (.switch on)

/-- As many words as slots, and each fits its slot. -/
inductive FitAll : List Slot → List String → List Value → Prop
  | nil : FitAll [] [] []
  | cons {slot : Slot} {slots : List Slot} {word : String} {words : List String} {value : Value}
      {values : List Value} : Fits slot.kind word value → FitAll slots words values →
      FitAll (slot :: slots) (word :: words) (value :: values)

/-- A line is, but for blanks around it, a verb in any case and arguments that fit its slots, with a
single space between words. -/
def Sentence (line : String) (verb : Verb) (arguments : List String) (values : List Value) : Prop :=
  ∃ word, trimmed line = String.intercalate " " (word :: arguments) ∧
    (∀ w ∈ word :: arguments, ' ' ∉ w.toList) ∧ Spells word verb.name ∧
    FitAll verb.slots arguments values

theorem find?_name_eq_some_iff {α : Type} {name : α → String} {l : List α} {word : String} {a : α}
    (hinj : ∀ a ∈ l, ∀ b ∈ l, name a = name b → a = b) :
    l.find? (name · == word) = some a ↔ a ∈ l ∧ name a = word := by
  constructor
  · intro h
    exact ⟨List.mem_of_find?_eq_some h, by simpa using List.find?_some h⟩
  · rintro ⟨ha, rfl⟩
    cases hf : l.find? (name · == name a) with
    | none => exact absurd (List.find?_eq_none.1 hf a ha) (by simp)
    | some b =>
      have hb : name b = name a := by simpa using List.find?_some hf
      rw [hinj b (List.mem_of_find?_eq_some hf) a ha hb]

theorem isPlainName_of_choice : ∀ c ∈ PenColor.choices, IsPlainName c.name := by decide

theorem isPlainName_switchName (on : Bool) : IsPlainName (switchName on) := by
  cases on <;> decide

theorem readColor_eq_value_iff (word : String) (c : PenColor) :
    readColor word = .value c ↔ c ∈ PenColor.choices ∧ Spells word c.name := by
  have hfind : PenColor.choices.find? (·.name == lowered word) = some c ↔
      c ∈ PenColor.choices ∧ Spells word c.name := by
    rw [find?_name_eq_some_iff (by decide)]
    exact and_congr_right fun hc => by rw [eq_comm, lowered_eq_iff (isPlainName_of_choice c hc)]
  rw [← hfind, readColor]
  cases PenColor.choices.find? (·.name == lowered word) <;> simp

theorem readSwitch_eq_value_iff (word : String) (on : Bool) :
    readSwitch word = .value on ↔ Spells word (switchName on) := by
  have hfind : [true, false].find? (switchName · == lowered word) = some on ↔
      Spells word (switchName on) := by
    rw [find?_name_eq_some_iff (by decide), eq_comm (a := switchName on),
      lowered_eq_iff (isPlainName_switchName on)]
    cases on <;> simp
  rw [← hfind, readSwitch]
  cases [true, false].find? (switchName · == lowered word) <;> simp

namespace Verb

theorem mem_all (v : Verb) : v ∈ all := by cases v <;> decide

theorem isPlainName_name (v : Verb) : IsPlainName v.name := by cases v <;> decide

theorem name_injective {v w : Verb} (h : v.name = w.name) : v = w :=
  (by decide : ∀ v ∈ all, ∀ w ∈ all, v.name = w.name → v = w) v (mem_all v) w (mem_all w) h

/-- Lowering a word twice before it is looked up finds what lowering it once finds. -/
theorem named?_lowered_eq_some_iff (word : String) (v : Verb) :
    named? (lowered word) = some v ↔ Spells word v.name := by
  rw [named?, find?_name_eq_some_iff (fun _ _ _ _ => name_injective), eq_comm (a := v.name),
    lowered_eq_iff v.isPlainName_name, spells_lowered_iff v.isPlainName_name]
  simp [mem_all]

end Verb

def Value.ofKind : (kind : SlotKind) → kind.Value → Value
  | .integer, n => .integer n
  | .color, c => .color c
  | .switch, on => .switch on

def Values.toList : (slots : List Slot) → Values slots → List Value
  | [], () => []
  | slot :: slots, (value, values) => .ofKind slot.kind value :: toList slots values

theorem Fits.exists_ofKind {kind : SlotKind} {word : String} {value : Value}
    (h : Fits kind word value) : ∃ v, value = .ofKind kind v := by
  cases h with
  | integer => exact ⟨_, rfl⟩
  | color => exact ⟨_, rfl⟩
  | switch => exact ⟨_, rfl⟩

theorem FitAll.exists_toList {slots : List Slot} {words : List String} {values : List Value}
    (h : FitAll slots words values) : ∃ vs, values = Values.toList slots vs := by
  induction h with
  | nil => exact ⟨(), rfl⟩
  | cons hv _ ih =>
    obtain ⟨v, rfl⟩ := hv.exists_ofKind
    obtain ⟨vs, rfl⟩ := ih
    exact ⟨(v, vs), rfl⟩

theorem FitAll.length_eq {slots : List Slot} {words : List String} {values : List Value}
    (h : FitAll slots words values) : words.length = slots.length := by
  induction h with
  | nil => rfl
  | cons _ _ ih => rw [List.length_cons, List.length_cons, ih]

theorem fitAll_cons_iff {slot : Slot} {slots : List Slot} {word : String} {words : List String}
    {value : Value} {values : List Value} :
    FitAll (slot :: slots) (word :: words) (value :: values) ↔
      Fits slot.kind word value ∧ FitAll slots words values := by
  constructor
  · intro h
    cases h with
    | cons hv hvs => exact ⟨hv, hvs⟩
  · rintro ⟨hv, hvs⟩
    exact .cons hv hvs

theorem SlotKind.read_eq_value_iff (kind : SlotKind) (word : String) (v : kind.Value) :
    kind.read word = .value v ↔ Fits kind word (.ofKind kind v) := by
  cases kind with
  | integer =>
    exact (readInt_eq_value_iff word v).trans ⟨.integer, fun h => by cases h; assumption⟩
  | color =>
    refine (readColor_eq_value_iff word v).trans ⟨fun h => .color h.1 h.2, fun h => ?_⟩
    cases h with
    | color hc hs => exact ⟨hc, hs⟩
  | switch =>
    exact (readSwitch_eq_value_iff word v).trans ⟨.switch, fun h => by cases h; assumption⟩

theorem readArgument_eq_ok_iff (verb : Verb) (slot : Slot) (word : Token) (v : slot.kind.Value) :
    readArgument verb slot word = .ok v ↔ Fits slot.kind word.text (.ofKind slot.kind v) := by
  rw [← SlotKind.read_eq_value_iff, readArgument]
  cases slot.kind.read word.text <;> simp

theorem readArguments_eq_ok_iff (verb : Verb) (slots : List Slot) (words : List Token)
    (h : words.length = slots.length) (vs : Values slots) :
    readArguments verb slots words h = .ok vs ↔
      FitAll slots (words.map (·.text)) (Values.toList slots vs) := by
  induction slots generalizing words with
  | nil =>
    match words, h with
    | [], _ => exact ⟨fun _ => .nil, fun _ => rfl⟩
  | cons slot slots ih =>
    match words, h, vs with
    | word :: words, h, (v, vs) =>
      simp only [readArguments, List.map_cons, Values.toList, fitAll_cons_iff,
        ← readArgument_eq_ok_iff verb slot word v, ← ih words (Nat.succ.inj h) vs]
      cases readArgument verb slot word with
      | error e => simp [bind, Except.bind]
      | ok v' =>
        cases readArguments verb slots words (Nat.succ.inj h) with
        | error e => simp [bind, Except.bind]
        | ok vs' => simp [bind, Except.bind, pure, Except.pure]

theorem Verb.verb_action (verb : Verb) (vs : Values verb.slots) : (verb.action vs).verb = verb := by
  cases verb <;> rfl

theorem Verb.values_action (verb : Verb) (vs : Values verb.slots) :
    (verb.action vs).values = Values.toList verb.slots vs := by
  cases verb <;> rfl

theorem Action.ext_values {a b : Action} (hv : a.verb = b.verb) (hs : a.values = b.values) :
    a = b := by
  rcases a with ⟨x, y⟩ | ⟨x, y⟩ | _ | _ | _ | _ | _ | _ | _ <;>
    rcases b with ⟨x', y'⟩ | ⟨x', y'⟩ | _ | _ | _ | _ | _ | _ | _ <;>
    simp_all [Action.verb, Action.values]

/-- A phrase is read as a command exactly if its first word spells the verb and the others fit. -/
theorem Phrase.parse_eq_ok_iff (p : Phrase) (c : Command) :
    p.parse = .ok c ↔ c.phrase = p ∧ Spells p.head.text c.verb.name ∧
      FitAll c.verb.slots (p.arguments.map (·.text)) c.action.values := by
  constructor
  · intro h
    unfold Phrase.parse at h
    split at h
    · cases h
    · next verb hverb =>
      have hs := (Verb.named?_lowered_eq_some_iff _ _).1 hverb
      split at h
      · next hl =>
        cases hr : readArguments verb verb.slots p.arguments hl with
        | error e => rw [hr] at h; cases h
        | ok vs =>
          rw [hr] at h
          cases h
          have hf := (readArguments_eq_ok_iff verb _ _ hl vs).1 hr
          have hv : Command.verb ⟨verb.action vs, p⟩ = verb := Verb.verb_action verb vs
          exact ⟨rfl, by rwa [hv], by rwa [hv, Verb.values_action]⟩
      · cases h
  · rintro ⟨rfl, hs, hf⟩
    obtain ⟨vs, hvs⟩ := hf.exists_toList
    have hl : c.phrase.arguments.length = c.verb.slots.length := by simpa using hf.length_eq
    have hr := (readArguments_eq_ok_iff c.verb _ _ hl vs).2 (hvs ▸ hf)
    have ha : c.verb.action vs = c.action :=
      Action.ext_values (Verb.verb_action _ vs) (by rw [Verb.values_action, hvs])
    simp only [Phrase.parse, (Verb.named?_lowered_eq_some_iff _ _).2 hs, dif_pos hl, hr]
    simp only [bind, Except.bind, pure, Except.pure, ha]

theorem FitAll.exists_action {verb : Verb} {words : List String} {values : List Value}
    (h : FitAll verb.slots words values) :
    ∃ action : Action, action.verb = verb ∧ action.values = values := by
  obtain ⟨vs, rfl⟩ := h.exists_toList
  exact ⟨verb.action vs, verb.verb_action vs, verb.values_action vs⟩

theorem sentence_iff_words (line : String) (verb : Verb) (arguments : List String)
    (values : List Value) :
    Sentence line verb arguments values ↔
      ∃ word, (Phrase.ofLine line).words = word :: arguments ∧ Spells word verb.name ∧
        FitAll verb.slots arguments values := by
  refine exists_congr fun word => ⟨?_, ?_⟩
  · rintro ⟨hl, hw, hs, hf⟩
    exact ⟨Phrase.words_ofLine_of_intercalate (List.cons_ne_nil _ _) hw hl, hs, hf⟩
  · rintro ⟨hw, hs, hf⟩
    refine ⟨?_, fun w hm => Phrase.not_mem_words_ofLine (hw ▸ hm), hs, hf⟩
    rw [← hw, Phrase.intercalate_words_ofLine]

theorem words_eq_cons_iff (p : Phrase) (word : String) (arguments : List String) :
    p.words = word :: arguments ↔ p.head.text = word ∧ p.arguments.map (·.text) = arguments :=
  List.cons_eq_cons

theorem parse_eq_ok_iff (line : String) (c : Command) :
    parse line = .ok c ↔ c.phrase = Phrase.ofLine line ∧ Spells c.phrase.head.text c.verb.name ∧
      FitAll c.verb.slots c.arguments c.action.values := by
  unfold parse
  rw [Phrase.parse_eq_ok_iff]
  exact and_congr_right fun hp => by rw [← hp, Command.arguments]

theorem sentence_of_parse {line : String} {c : Command} (h : parse line = .ok c) :
    Sentence line c.verb c.arguments c.action.values := by
  obtain ⟨hp, hs, hf⟩ := (parse_eq_ok_iff _ _).1 h
  refine (sentence_iff_words _ _ _ _).2 ⟨c.phrase.head.text, ?_, hs, hf⟩
  rw [← hp]
  rfl

theorem exists_command_of_sentence {line : String} {verb : Verb} {arguments : List String}
    {values : List Value} (h : Sentence line verb arguments values) :
    ∃ c, parse line = .ok c ∧ c.verb = verb ∧ c.arguments = arguments ∧
      c.action.values = values := by
  obtain ⟨word, hw, hs, hf⟩ := (sentence_iff_words _ _ _ _).1 h
  obtain ⟨hhead, hargs⟩ := (words_eq_cons_iff _ _ _).1 hw
  obtain ⟨action, hv, hvs⟩ := hf.exists_action
  have hc : Command.verb ⟨action, Phrase.ofLine line⟩ = verb := hv
  refine ⟨⟨action, Phrase.ofLine line⟩, ?_, hv, hargs, hvs⟩
  refine (parse_eq_ok_iff _ _).2 ⟨rfl, ?_, ?_⟩
  · rwa [hc, hhead]
  · rwa [hc, Command.arguments, hargs, hvs]

theorem verb_name_of_parse {line : String} {c : Command} (h : parse line = .ok c) :
    c.verb.name = lowered c.phrase.head.text := by
  obtain ⟨-, hs, -⟩ := (parse_eq_ok_iff _ _).1 h
  exact ((lowered_eq_iff c.verb.isPlainName_name _).2 hs).symm

/-- What is beyond ASCII is in no verb, no color and no switch. -/
theorem unfit_of_foreign {word : String} {x : Char} (hx : x ∈ word.toList) (hn : 128 ≤ x.toNat) :
    Verb.named? (lowered word) = none ∧ readColor word = .unfit ∧ readSwitch word = .unfit := by
  have hno {name : String} (hp : IsPlainName name) : ¬Spells word name := fun hs => by
    have := hs.ascii hp x hx
    omega
  refine ⟨?_, ?_, ?_⟩
  · rw [Option.eq_none_iff_forall_ne_some]
    exact fun v hv => hno v.isPlainName_name ((Verb.named?_lowered_eq_some_iff word v).1 hv)
  · have hc := readColor_eq_value_iff word
    revert hc
    unfold readColor
    split
    · next c _ =>
      intro hc
      obtain ⟨hmem, hs⟩ := (hc c).1 rfl
      exact absurd hs (hno (isPlainName_of_choice c hmem))
    · exact fun _ => rfl
  · have hs := readSwitch_eq_value_iff word
    revert hs
    unfold readSwitch
    split
    · next on _ => exact fun hs => absurd ((hs on).1 rfl) (hno (isPlainName_switchName on))
    · exact fun _ => rfl

/-- A line is read as a command exactly if it is a sentence, with the verb, the words and the values
of that sentence. The verb is the first word in lower case, and lowering more than ASCII does not
let anything else in. -/
theorem parse_reads_sentences (line : String) :
    (∀ verb arguments values,
      (∃ c, parse line = .ok c ∧ c.verb = verb ∧ c.arguments = arguments ∧
        c.action.values = values) ↔ Sentence line verb arguments values) ∧
    (∀ c, parse line = .ok c → c.verb.name = lowered c.phrase.head.text) ∧
    ∀ (word : String) (x : Char), x ∈ word.toList → 128 ≤ x.toNat →
      Verb.named? (lowered word) = none ∧ readColor word = .unfit ∧ readSwitch word = .unfit := by
  refine ⟨fun verb arguments values => ⟨?_, exists_command_of_sentence⟩,
    fun _ => verb_name_of_parse, fun _ _ => unfit_of_foreign⟩
  rintro ⟨c, h, rfl, rfl, rfl⟩
  exact sentence_of_parse h

/-- Letter case, a sign, leading zeros and an ideographic space do no harm; a dotted capital I does. -/
theorem parse_reads_padded_drawTo :
    (∃ c, parse "\tDrawTo -007 +5\u3000" = .ok c ∧ c.arguments = ["-007", "+5"] ∧
      c.action.values = [.integer (-7), .integer 5] ∧ c.verb.name = lowered c.phrase.head.text) ∧
    Verb.named? (lowered "c\u0130rcle") = none := by
  have hx : SpellsInt "-007" (-7) :=
    ⟨['-'], ['0', '0', '7'], by decide +kernel, by simp, by decide, by decide,
      (all_isDigit_iff _).1 (by decide), by decide, by decide⟩
  have hy : SpellsInt "+5" 5 :=
    ⟨['+'], ['5'], by decide +kernel, by simp, by decide, by decide,
      (all_isDigit_iff _).1 (by decide), by decide, by decide⟩
  have hs : Sentence "\tDrawTo -007 +5\u3000" .drawTo ["-007", "+5"] [.integer (-7), .integer 5] :=
    ⟨"DrawTo", by decide +kernel, by decide +kernel, by decide +kernel,
      .cons (.integer hx) (.cons (.integer hy) .nil)⟩
  obtain ⟨hread, hverb, -⟩ := parse_reads_sentences "\tDrawTo -007 +5\u3000"
  obtain ⟨c, hc, -, ha, hvs⟩ := (hread _ _ _).2 hs
  refine ⟨⟨c, hc, ha, hvs, hverb c hc⟩, ?_⟩
  exact ((parse_reads_sentences "").2.2 "c\u0130rcle" (Char.ofNat 0x130) (by decide +kernel)
    (by decide)).1

end Drawboard

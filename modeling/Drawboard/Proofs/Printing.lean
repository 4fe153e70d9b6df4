import Drawboard.Proofs.Handlers
import Drawboard.Proofs.Places

/-! Commands in print. The words of a command are not empty and have no blanks in them, so the text of
a command is trimmed and has just these words; it is read as the same command. A line that is read as
a command differs from that text only by the blanks around it and the case of the verb. -/

namespace Drawboard

structure IsWord (word : String) : Prop where
  nonempty : word.toList ≠ []
  not_blank : ∀ c ∈ word.toList, Text.isBlank c = false

namespace Text

theorem isBlank_of_visible {c : Char} (hlow : 33 ≤ c.toNat) (hhigh : c.toNat ≤ 126) :
    isBlank c = false := by
  simp only [isBlank, Bool.or_eq_false_iff, Bool.and_eq_false_iff, decide_eq_false_iff_not,
    beq_eq_false_iff_ne]
  omega

theorem trim_eq_self {cs : List Char} (hfirst : ∀ c ∈ cs.head?, isBlank c = false)
    (hlast : ∀ c ∈ cs.getLast?, isBlank c = false) : trim cs = cs := by
  have hleft : trimLeft cs = cs := by
    cases cs with
    | nil => rfl
    | cons c cs => exact trimLeft_of_head (hfirst c rfl)
  rw [trim, hleft]
  refine List.rdropWhile_eq_self_iff.2 fun hne => ?_
  rw [hlast _ (List.getLast_mem_getLast? hne)]
  exact Bool.false_ne_true

end Text

theorem IsWord.space_not_mem {word : String} (h : IsWord word) : ' ' ∉ word.toList := by
  intro hm
  have := h.not_blank ' ' hm
  revert this
  decide

theorem Numeral.isWord {word : String} {n : Numeral} (h : of? word = some n) : IsWord word where
  nonempty := (chars_of_of? h).1
  not_blank c hc := by
    rcases (chars_of_of? h).2 c hc with rfl | rfl | ⟨hlow, hhigh⟩
    · decide
    · decide
    · have hlow : 48 ≤ c.toNat := hlow
      have hhigh : c.toNat ≤ 57 := hhigh
      exact Text.isBlank_of_visible (by omega) (by omega)

theorem SpellsInt.isWord {word : String} {n : Int} (h : SpellsInt word n) : IsWord word := by
  obtain ⟨m, hm⟩ := h.exists_numeral
  exact Numeral.isWord hm

theorem Spells.length_eq {word name : String} (h : Spells word name) :
    word.length = name.length := by
  rw [← String.length_toList, ← String.length_toList, ← h, List.length_map]

theorem Spells.isWord {word name : String} (h : Spells word name) (hp : IsPlainName name)
    (hne : name.toList ≠ []) : IsWord word where
  nonempty h0 := hne (by rw [← h, h0, List.map_nil])
  not_blank c hc := by
    have hl : Text.IsPlain c.toLower := hp _ (by rw [← h]; exact List.mem_map_of_mem hc)
    have hlow := hl.1
    have hhigh := hl.2.1
    have hlower := Text.toNat_toLower c
    refine Text.isBlank_of_visible ?_ ?_ <;> split at hlower <;> omega

theorem spells_self {name : String} (h : IsPlainName name) : Spells name name := by
  refine (List.map_congr_left fun c hc => ?_).trans (List.map_id _)
  have := (h c hc).1
  exact Text.toLower_eq_self (by omega)

theorem Fits.isWord {kind : SlotKind} {word : String} {value : Value} (h : Fits kind word value) :
    IsWord word := by
  cases h with
  | integer h => exact h.isWord
  | color hc hs =>
    exact hs.isWord (isPlainName_of_choice _ hc)
      ((by decide : ∀ c ∈ PenColor.choices, c.name.toList ≠ []) _ hc)
  | @switch _ on hs => exact hs.isWord (isPlainName_switchName on) (by cases on <;> decide)

theorem FitAll.isWord {slots : List Slot} {words : List String} {values : List Value}
    (h : FitAll slots words values) : ∀ w ∈ words, IsWord w := by
  induction h with
  | nil => simp
  | cons hv _ ih => exact List.forall_mem_cons.2 ⟨hv.isWord, ih⟩

theorem Verb.isWord_name (verb : Verb) : IsWord verb.name :=
  (spells_self verb.isPlainName_name).isWord verb.isPlainName_name (by cases verb <;> decide)

theorem toList_intercalate_cons (word : String) (words : List String) :
    (String.intercalate " " (word :: words)).toList =
      word.toList ++ (words.map String.toList).flatMap (' ' :: ·) := by
  rw [String.toList_intercalate]
  exact intercalate_eq [] word.toList _

theorem toList_intercalate_concat (words : List String) (word : String) :
    (String.intercalate " " (words ++ [word])).toList =
      spaced (words.map String.toList) ++ word.toList := by
  have h := intercalate_eq (words.map String.toList) word.toList []
  rw [List.flatMap_nil, List.append_nil] at h
  rw [String.toList_intercalate, List.map_append]
  exact h

theorem trimmed_intercalate {words : List String} (h : ∀ w ∈ words, IsWord w) :
    trimmed (String.intercalate " " words) = String.intercalate " " words := by
  rw [← String.toList_inj, toList_trimmed]
  refine Text.trim_eq_self ?_ ?_
  · cases words with
    | nil => exact nofun
    | cons w ws =>
      have hw := h w List.mem_cons_self
      rw [toList_intercalate_cons, List.head?_append_of_ne_nil _ hw.nonempty]
      exact fun c hc => hw.not_blank c (List.mem_of_mem_head? hc)
  · rcases List.eq_nil_or_concat' words with rfl | ⟨ws, w, rfl⟩
    · exact nofun
    · have hw := h w (List.mem_append_right _ (List.mem_singleton_self w))
      rw [toList_intercalate_concat, List.getLast?_append_of_ne_nil _ hw.nonempty]
      exact fun c hc => hw.not_blank c (List.mem_of_mem_getLast? hc)

namespace Command

variable {c : Command}

theorem isWord_of_fitAll (hf : FitAll c.verb.slots c.arguments c.action.values) :
    ∀ w ∈ c.verb.name :: c.arguments, IsWord w :=
  List.forall_mem_cons.2 ⟨c.verb.isWord_name, hf.isWord⟩

theorem sentence_text (hf : FitAll c.verb.slots c.arguments c.action.values) :
    Sentence c.text c.verb c.arguments c.action.values :=
  ⟨c.verb.name, trimmed_intercalate (isWord_of_fitAll hf),
    fun w hw => (isWord_of_fitAll hf w hw).space_not_mem, spells_self c.verb.isPlainName_name, hf⟩

theorem words_text (hf : FitAll c.verb.slots c.arguments c.action.values) :
    (Phrase.ofLine c.text).words = c.verb.name :: c.arguments :=
  Phrase.words_ofLine_of_intercalate (List.cons_ne_nil _ _)
    (fun w hw => (isWord_of_fitAll hf w hw).space_not_mem)
    (trimmed_intercalate (isWord_of_fitAll hf))

/-- The same command, read from its own text. -/
structure ReadBack (c c' : Command) : Prop where
  verb : c'.verb = c.verb
  arguments : c'.arguments = c.arguments
  values : c'.action.values = c.action.values
  words : c'.phrase.words = c.verb.name :: c.arguments
  spans : ∀ t ∈ c'.phrase.tokens, t.span.slice c.text = t.text ∧
    0 ≤ t.span.start ∧ t.span.start ≤ t.span.stop ∧ t.span.stop ≤ c.text.length
  text : c'.text = c.text

theorem exists_readBack (hf : FitAll c.verb.slots c.arguments c.action.values) :
    ∃ c', parse c.text = .ok c' ∧ c.ReadBack c' := by
  obtain ⟨c', hparse, hverb, harguments, hvalues⟩ := exists_command_of_sentence (sentence_text hf)
  obtain ⟨hphrase, -⟩ := (parse_eq_ok_iff _ _).1 hparse
  refine ⟨c', hparse, hverb, harguments, hvalues, ?_, fun t ht => ?_, ?_⟩
  · rw [hphrase, words_text hf]
  · rw [hphrase] at ht
    obtain ⟨before, later, htokens⟩ := List.append_of_mem ht
    obtain ⟨hslice, hinside, -⟩ := Phrase.slice_word htokens
    exact ⟨hslice, hinside⟩
  · rw [Command.text, Command.text, hverb, harguments]

end Command

/-- A text with what stands before its first space in lower case. -/
def withLowerVerb (text : String) : String :=
  lowered (String.ofList (text.toList.takeWhile (· ≠ ' '))) ++
    String.ofList (text.toList.dropWhile (· ≠ ' '))

theorem withLowerVerb_intercalate {word : String} {arguments : List String}
    (h : ' ' ∉ word.toList) :
    withLowerVerb (String.intercalate " " (word :: arguments)) =
      String.intercalate " " (lowered word :: arguments) := by
  have hword : ∀ c ∈ word.toList, (decide (c ≠ ' ')) = true := fun c hc =>
    decide_eq_true fun h0 => h (h0 ▸ hc)
  rw [← String.toList_inj, withLowerVerb, toList_intercalate_cons, toList_intercalate_cons,
    String.toList_append, String.toList_ofList, List.takeWhile_append_of_pos hword,
    List.dropWhile_append_of_pos hword]
  cases arguments with
  | nil => simp
  | cons a as => simp

theorem Sentence.text_eq {line : String} {c : Command}
    (h : Sentence line c.verb c.arguments c.action.values) :
    c.text = withLowerVerb (trimmed line) ∧ c.text.length = (trimmed line).length := by
  obtain ⟨word, hline, hspace, hs, -⟩ := h
  have hlower := (lowered_eq_iff c.verb.isPlainName_name word).2 hs
  constructor
  · rw [hline, withLowerVerb_intercalate (hspace word List.mem_cons_self), hlower, Command.text]
  · have hlength (w : String) : (String.intercalate " " (w :: c.arguments)).length =
        w.length + ((c.arguments.map String.toList).flatMap (' ' :: ·)).length := by
      rw [← String.length_toList, toList_intercalate_cons, List.length_append, String.length_toList]
    rw [hline, Command.text, hlength, hlength, hs.length_eq]

/-- What a line does to a drawing is decided by the action it is read as. -/
theorem Drawing.dispatch_congr (d : Drawing) {line line' : String} {c c' : Command}
    (h : parse line = .ok c) (h' : parse line' = .ok c') (ha : c'.action = c.action) :
    (d.dispatch line').2 = (d.dispatch line).2 ∧ (d.execute line').2 = (d.execute line).2 := by
  constructor
  · cases hn : d.fault? c.action with
    | some n =>
      rw [dispatch_of_fault h hn, dispatch_of_fault h' (ha ▸ hn)]
    | none =>
      rw [dispatch_of_no_fault h hn, dispatch_of_no_fault h' (ha ▸ hn), ha]
  · rw [d.execute_of_ok h, d.execute_of_ok h', ha]

/-- Whatever words a command was made of, its text is read as the same command, with words that are in
their places. The text of a line's command is the trimmed line with its verb in lower case, and does
to any drawing what the line does. -/
theorem printed_commands_are_read_back :
    (∀ (p : Phrase) (c : Command), p.parse = .ok c →
      ∃ c', parse c.text = .ok c' ∧ c.ReadBack c') ∧
    ∀ (line : String) (c : Command), parse line = .ok c →
      c.text = withLowerVerb (trimmed line) ∧ c.text.length = (trimmed line).length ∧
        ∀ d : Drawing, (d.dispatch c.text).2 = (d.dispatch line).2 ∧
          (d.execute c.text).2 = (d.execute line).2 := by
  constructor
  · intro p c h
    obtain ⟨rfl, -, hf⟩ := (Phrase.parse_eq_ok_iff p c).1 h
    exact Command.exists_readBack hf
  · intro line c h
    obtain ⟨-, -, hf⟩ := (parse_eq_ok_iff line c).1 h
    obtain ⟨c', hc', hback⟩ := Command.exists_readBack hf
    obtain ⟨htext, hlength⟩ := (sentence_of_parse h).text_eq
    have ha : c'.action = c.action := Action.ext_values hback.verb hback.values
    exact ⟨htext, hlength, fun d => d.dispatch_congr h hc' ha⟩

/-- The places that words were given do not matter, nor do blanks, capitals, signs and zeros. -/
theorem circle_and_padded_triangle_are_read_back :
    let p : Phrase := ⟨⟨"CIRCLE", ⟨9, -4⟩⟩, [⟨"+007", ⟨0, 0⟩⟩]⟩
    let c : Command := ⟨.circle 7, p⟩
    let line := "\tTriangle 4 -03 +5 "
    (p.parse = .ok c ∧ ∃ c', parse "circle +007" = .ok c' ∧ c.ReadBack c') ∧
    ∃ t, parse line = .ok t ∧ t.text = "triangle 4 -03 +5" ∧
      ∀ d : Drawing, (d.dispatch "triangle 4 -03 +5").2 = (d.dispatch line).2 := by
  intro p c line
  obtain ⟨hprinted, hlines⟩ := printed_commands_are_read_back
  have hp : p.parse = .ok c := by decide +kernel
  have hc : c.text = "circle +007" := by decide +kernel
  have ht : parse line = .ok ⟨.triangle 4 (-3) 5, .ofLine line⟩ := by decide +kernel
  obtain ⟨htext, -, hsame⟩ := hlines line _ ht
  have hline : withLowerVerb (trimmed line) = "triangle 4 -03 +5" := by decide +kernel
  rw [hline] at htext
  rw [htext] at hsame
  exact ⟨⟨hp, hc ▸ hprinted p c hp⟩, _, ht, htext, fun d => (hsame d).1⟩

end Drawboard

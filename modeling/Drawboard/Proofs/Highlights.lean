import Drawboard.Highlight
import Drawboard.Proofs.Canonical
import Drawboard.Proofs.Printing

/-! Commands in color. A line that is read as a command is colored word by word as the command asks,
its verb by its class and each argument by the slot it is for, exactly if spaces are the only blanks
around it. Coloring cuts a line at spaces but does not trim it, so any other blank is taken for a part
of a word, and no word with a blank in it is known. -/

namespace Drawboard

def Value.kind : Value → SlotKind
  | .integer _ => .integer
  | .color _ => .color
  | .switch _ => .switch

def Style.ofValue : Value → Style
  | .integer _ => .number
  | .color c => .color c
  | .switch _ => .switch

def Highlight.ofToken (t : Token) (style : Style) : Highlight :=
  ⟨t.span.start.toNat, (t.span.stop - t.span.start).toNat, style⟩

/-- The words of a command, the verb in the style of its class and the arguments in those of their
values. -/
def Command.highlights (c : Command) : List Highlight :=
  .ofToken c.phrase.head (.ofVerb c.verb) ::
    List.zipWith Highlight.ofToken c.phrase.arguments (c.action.values.map Style.ofValue)

def OnlySpaces (cs : List Char) : Prop := ∀ c ∈ cs, Text.isBlank c = true → c = ' '

instance (cs : List Char) : Decidable (OnlySpaces cs) :=
  List.decidableBAll (fun c => Text.isBlank c = true → c = ' ') cs

theorem Fits.kind_eq {kind : SlotKind} {word : String} {value : Value}
    (h : Fits kind word value) : value.kind = kind := by
  cases h <;> rfl

theorem FitAll.kinds_eq {slots : List Slot} {words : List String} {values : List Value}
    (h : FitAll slots words values) : values.map Value.kind = slots.map (·.kind) := by
  induction h with
  | nil => rfl
  | cons hv _ ih => rw [List.map_cons, List.map_cons, hv.kind_eq, ih]

/-- The first word of a line is looked up lowered once. -/
theorem Verb.named?_eq_some_iff (word : String) (v : Verb) :
    named? word = some v ↔ Spells word v.name := by
  rw [named?, find?_name_eq_some_iff (fun _ _ _ _ => name_injective), eq_comm (a := v.name),
    lowered_eq_iff v.isPlainName_name]
  simp [mem_all]

/-- Names have letters in them and numerals have not. -/
theorem Numeral.of?_of_spells {word name : String} (h : Spells word name) (hp : IsPlainName name) :
    of? word = none := by
  cases hn : of? word with
  | none => rfl
  | some n =>
    obtain ⟨hne, hchars⟩ := chars_of_of? hn
    obtain ⟨c, cs, hc⟩ := List.exists_cons_of_ne_nil hne
    have hmem : c ∈ word.toList := hc ▸ List.mem_cons_self
    have hlower : Text.IsPlain c.toLower := hp _ (h ▸ List.mem_map_of_mem hmem)
    have hnat := Text.toNat_toLower c
    have hlow := hlower.1
    rcases hchars c hmem with rfl | rfl | ⟨-, hhigh⟩
    · exact absurd hlow (by decide)
    · exact absurd hlow (by decide)
    · have hhigh : c.toNat ≤ 57 := hhigh
      split at hnat <;> omega

namespace Style

variable {word : String}

theorem ofFirstWord_of_spells {verb : Verb} (h : Spells word verb.name) :
    ofFirstWord word = ofVerb verb := by
  rw [ofFirstWord, (Verb.named?_eq_some_iff word verb).2 h]

theorem ofArgument_of_fits {kind : SlotKind} {value : Value} (h : Fits kind word value) :
    ofArgument word = ofValue value := by
  cases h with
  | integer h =>
    obtain ⟨n, hn⟩ := h.exists_numeral
    rw [ofArgument, hn]
    rfl
  | @color _ c hc hs =>
    rw [ofArgument, Numeral.of?_of_spells hs (isPlainName_of_choice c hc),
      (readColor_eq_value_iff word c).2 ⟨hc, hs⟩]
    rfl
  | @switch _ on hs =>
    have hcolor (c : PenColor) : readColor word ≠ .value c := by
      intro hread
      obtain ⟨hc, hs'⟩ := (readColor_eq_value_iff word c).1 hread
      have hname : c.name = switchName on := String.toList_inj.1 (hs'.symm.trans hs)
      revert hname
      cases on <;> cases c <;> decide
    rw [ofArgument, Numeral.of?_of_spells hs (isPlainName_switchName on)]
    split
    · next h => exact absurd h (by decide)
    · split
      · next c hread => exact absurd hread (hcolor c)
      · rw [(readSwitch_eq_value_iff word on).2 hs]
        rfl

theorem isWord_of_ofFirstWord (h : ofFirstWord word ≠ unknown) : IsWord word := by
  unfold ofFirstWord at h
  split at h
  · next verb hverb =>
    have hs := (Verb.named?_eq_some_iff word verb).1 hverb
    exact hs.isWord verb.isPlainName_name verb.isWord_name.nonempty
  · exact absurd rfl h

theorem isWord_of_ofArgument (h : ofArgument word ≠ unknown) : IsWord word := by
  unfold ofArgument at h
  split at h
  · next hn =>
    obtain ⟨n, hn⟩ := Option.isSome_iff_exists.1 hn
    exact Numeral.isWord hn
  · split at h
    · next c hread =>
      obtain ⟨hc, hs⟩ := (readColor_eq_value_iff word c).1 hread
      exact (Fits.color hc hs).isWord
    · split at h
      · next on hread => exact (Fits.switch ((readSwitch_eq_value_iff word on).1 hread)).isWord
      · exact absurd rfl h

end Style

namespace Highlight

theorem ofWords_space (start : Nat) (first : Bool) (cs : List Char) :
    ofWords start first ((' ' :: cs).splitOn ' ') = ofWords (start + 1) first (cs.splitOn ' ') := by
  rw [List.splitOn_cons_eq_if_modifyHead, if_pos (by simp), ofWords]
  rfl

theorem ofWords_indented (n start : Nat) (first : Bool) (cs : List Char) :
    ofWords start first ((List.replicate n ' ' ++ cs).splitOn ' ') =
      ofWords (start + n) first (cs.splitOn ' ') := by
  induction n generalizing start with
  | zero => rfl
  | succ n ih =>
    rw [List.replicate_succ, List.cons_append, ofWords_space, ih, Nat.add_right_comm]
    rfl

theorem ofWords_append_empty (n start : Nat) (first : Bool) (words : List (List Char)) :
    ofWords start first (words ++ List.replicate n []) = ofWords start first words := by
  induction words generalizing start first with
  | nil =>
    induction n generalizing start with
    | zero => rfl
    | succ n ih => exact ih (start + 1)
  | cons word words ih =>
    rw [List.cons_append, ofWords, ofWords, ih, ih]

theorem splitOn_spaces (n : Nat) :
    (List.replicate n ' ').splitOn ' ' = List.replicate (n + 1) [] := by
  induction n with
  | zero => rfl
  | succ n ih =>
    rw [List.replicate_succ, List.splitOn_cons_eq_if_modifyHead, if_pos (by simp), ih,
      ← List.replicate_succ]

theorem splitOn_append_spaces (cs : List Char) (n : Nat) :
    (cs ++ List.replicate n ' ').splitOn ' ' = cs.splitOn ' ' ++ List.replicate n [] := by
  cases n with
  | zero => simp
  | succ n => rw [List.replicate_succ, List.splitOn_append_cons_self, splitOn_spaces]

/-- With none but spaces around it, the words of a line are those of its trimmed text. -/
theorem ofLine_of_onlySpaces {line : String} (h : OnlySpaces line.toList) :
    ofLine line =
      ofWords (Text.indent line.toList) true ((Text.trim line.toList).splitOn ' ') := by
  let after := (Text.trimLeft line.toList).rtakeWhile Text.isBlank
  have hline : line.toList =
      line.toList.takeWhile Text.isBlank ++ (Text.trim line.toList ++ after) := by
    rw [Text.trim, Text.trimRight, ← List.rdropWhile, List.rdropWhile_append_rtakeWhile,
      Text.trimLeft, List.takeWhile_append_dropWhile]
  have hbefore : line.toList.takeWhile Text.isBlank =
      List.replicate (Text.indent line.toList) ' ' :=
    List.eq_replicate_of_mem fun c hc =>
      h c (List.takeWhile_subset _ hc) (List.mem_takeWhile_imp hc)
  have hafter : after = List.replicate after.length ' ' :=
    List.eq_replicate_of_mem fun c hc => by
      refine h c ?_ (List.mem_rtakeWhile_imp hc)
      rw [hline]
      exact List.mem_append_right _ (List.mem_append_right _ hc)
  rw [ofLine, hline, hbefore, hafter, ofWords_indented, splitOn_append_spaces,
    ofWords_append_empty, Nat.zero_add, ← hafter, ← hbefore, ← hline]

theorem ofToken_tokenAt (start : Nat) (word : List Char) (style : Style) :
    ofToken (Phrase.tokenAt start word) style = ⟨start, word.length, style⟩ := by
  simp only [ofToken, Phrase.tokenAt, mk.injEq, and_true]
  omega

theorem ofWords_of_fitAll {slots : List Slot} {words : List (List Char)} {values : List Value}
    (h : FitAll slots (words.map String.ofList) values) (start : Nat) :
    ofWords start false words =
      List.zipWith ofToken (Phrase.place start words) (values.map Style.ofValue) := by
  induction words generalizing slots values start with
  | nil =>
    cases h
    rfl
  | cons word words ih =>
    cases h with
    | cons hv hvs =>
      have hne : word.isEmpty = false := by
        rw [List.isEmpty_eq_false_iff]
        simpa using hv.isWord.nonempty
      rw [ofWords, hne, if_neg (by decide), Phrase.place, List.map_cons, List.zipWith_cons_cons,
        ih hvs, ofToken_tokenAt]
      simp only [Bool.false_eq_true, if_false, Style.ofArgument_of_fits hv]

/-- A word with a blank in it is shown as unknown. -/
theorem exists_unknown {words : List (List Char)} {word : List Char} (hw : word ∈ words)
    {c : Char} (hc : c ∈ word) (hb : Text.isBlank c = true) (start : Nat) (first : Bool) :
    ∃ s ∈ ofWords start first words, s.style = .unknown := by
  induction words generalizing start first with
  | nil => cases hw
  | cons w words ih =>
    rw [ofWords]
    rcases List.mem_cons.1 hw with rfl | hw
    · have hword : ¬IsWord (String.ofList word) := fun h => by
        rw [h.not_blank c (by rwa [String.toList_ofList])] at hb
        cases hb
      have hne : ¬word.isEmpty = true := fun h => by
        rw [List.isEmpty_iff.1 h] at hc
        cases hc
      rw [if_neg hne]
      refine ⟨_, List.mem_cons_self, ?_⟩
      cases first with
      | true => exact not_not.1 (mt Style.isWord_of_ofFirstWord hword)
      | false => exact not_not.1 (mt Style.isWord_of_ofArgument hword)
    · split
      · exact ih hw _ _
      · obtain ⟨s, hs, hunknown⟩ := ih hw (start + w.length + 1) false
        exact ⟨s, List.mem_cons_of_mem _ hs, hunknown⟩

theorem exists_unknown_of_blank {line : String} (h : ¬OnlySpaces line.toList) :
    ∃ s ∈ ofLine line, s.style = .unknown := by
  simp only [OnlySpaces, not_forall] at h
  obtain ⟨c, hc, hb, hne⟩ := h
  have hjoined : [' '].intercalate (line.toList.splitOn ' ') = line.toList :=
    List.intercalate_splitOn ' '
  rw [← hjoined] at hc
  rcases mem_intercalate hc with hc | ⟨word, hw, hc⟩
  · exact absurd (List.mem_singleton.1 hc) hne
  · exact exists_unknown hw hc hb 0 true

end Highlight

namespace Command

variable {line : String} {c : Command}

theorem highlights_eq (h : parse line = .ok c) (hs : OnlySpaces line.toList) :
    Highlight.ofLine line = c.highlights := by
  obtain ⟨hphrase, hverb, hfit⟩ := (parse_eq_ok_iff line c).1 h
  have htokens := Phrase.tokens_ofLine line
  rw [← hphrase] at htokens
  rw [Highlight.ofLine_of_onlySpaces hs, Command.highlights]
  generalize (Text.trim line.toList).splitOn ' ' = words at htokens ⊢
  generalize Text.indent line.toList = start at htokens ⊢
  cases words with
  | nil => cases htokens
  | cons word words =>
    obtain ⟨hhead, harguments⟩ := List.cons_eq_cons.1 htokens
    rw [Command.arguments, harguments, Phrase.map_text_place] at hfit
    rw [hhead] at hverb
    have hword := hverb.isWord c.verb.isPlainName_name c.verb.isWord_name.nonempty
    have hne : word.isEmpty = false := by
      rw [List.isEmpty_eq_false_iff]
      simpa [Phrase.tokenAt] using hword.nonempty
    rw [Highlight.ofWords, hne, if_neg (by decide), hhead, harguments, Highlight.ofToken_tokenAt,
      Highlight.ofWords_of_fitAll hfit]
    exact congrArg (fun style => _ :: _) (Style.ofFirstWord_of_spells hverb)

theorem known_of_mem_highlights {s : Highlight} (h : s ∈ c.highlights) : s.style ≠ .unknown := by
  rw [highlights, List.mem_cons] at h
  rcases h with rfl | h
  · change Style.ofVerb c.verb ≠ .unknown
    cases c.verb <;> decide
  · rw [List.zipWith_map_right, ← List.map_uncurry_zip_eq_zipWith] at h
    obtain ⟨⟨t, value⟩, -, rfl⟩ := List.mem_map.1 h
    change Style.ofValue value ≠ .unknown
    cases value <;> exact nofun

end Command

/-- The words of a line that is read as a command are colored as the command asks if spaces are the
only blanks in the line: each in its place, the verb by its class and every argument by its value,
which is of the kind of its slot. If there is any other blank, some word is shown as unknown. -/
theorem commands_are_colored_iff {line : String} {c : Command} (h : parse line = .ok c) :
    c.action.values.map Value.kind = c.verb.slots.map (·.kind) ∧
      (OnlySpaces line.toList → Highlight.ofLine line = c.highlights) ∧
      ((∀ s ∈ Highlight.ofLine line, s.style ≠ .unknown) ↔ OnlySpaces line.toList) := by
  obtain ⟨-, -, hfit⟩ := (parse_eq_ok_iff line c).1 h
  refine ⟨hfit.kinds_eq, Command.highlights_eq h, fun hknown => ?_, fun hs s hmem => ?_⟩
  · by_contra hblank
    obtain ⟨s, hs, hunknown⟩ := Highlight.exists_unknown_of_blank hblank
    exact hknown s hs hunknown
  · rw [Command.highlights_eq h hs] at hmem
    exact Command.known_of_mem_highlights hmem

/-- Spaces on both sides and any letter case do no harm. -/
theorem padded_blue_pen_is_colored :
    ∃ c, parse "  PEN Blue " = .ok c ∧
      Highlight.ofLine "  PEN Blue " = [⟨2, 3, .setting⟩, ⟨6, 4, .color .blue⟩] := by
  have hc : parse "  PEN Blue " = .ok ⟨.pen .blue, .ofLine "  PEN Blue "⟩ := by decide +kernel
  obtain ⟨-, hcolored, -⟩ := commands_are_colored_iff hc
  exact ⟨_, hc, (hcolored (by decide +kernel)).trans (by decide +kernel)⟩

/-- Behind a tab the verb is not known, and the line is a command all the same. -/
theorem tabbed_circle_is_unknown :
    (∃ c, parse "\tcircle 5" = .ok c ∧ c.action = .circle 5) ∧
      Highlight.ofLine "\tcircle 5" = [⟨0, 7, .unknown⟩, ⟨8, 1, .number⟩] := by
  have hc : parse "\tcircle 5" = .ok ⟨.circle 5, .ofLine "\tcircle 5"⟩ := by decide +kernel
  exact ⟨⟨_, hc, rfl⟩, by decide +kernel⟩

end Drawboard

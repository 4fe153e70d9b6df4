import Drawboard.Proofs.Highlights
import Drawboard.Proofs.Refusals

/-! What is highlighted of a line is its words, one after another. Each highlight is a run of
characters other than spaces that cannot be made longer, nothing but spaces is left out between
highlights, and the first word is shown as a verb and every other word as an argument. -/

namespace Drawboard

def IsInked (cs : List Char) (i : Nat) : Prop := ∃ c, cs[i]? = some c ∧ c ≠ ' '

theorem IsInked.lt_length {cs : List Char} {i : Nat} (h : IsInked cs i) : i < cs.length := by
  obtain ⟨c, hc, -⟩ := h
  exact (List.getElem?_eq_some_iff.1 hc).1

theorem getElem?_of_not_inked {cs : List Char} {i : Nat} (hi : i < cs.length)
    (h : ¬IsInked cs i) : cs[i]? = some ' ' := by
  rw [List.getElem?_eq_getElem hi, Option.some_inj]
  by_contra hne
  exact h ⟨cs[i], List.getElem?_eq_getElem hi, hne⟩

/-- Places one after another that are all of a kind, with none of that kind next to them. -/
structure MaximalRun (p : Nat → Prop) (start stop : Nat) : Prop where
  nonempty : start < stop
  inside : ∀ i, start ≤ i → i < stop → p i
  before : ∀ i, i + 1 = start → ¬p i
  behind : ¬p stop

theorem Verb.named?_eq_some_iff_lowered (word : String) (v : Verb) :
    named? word = some v ↔ lowered word = v.name := by
  rw [named?_eq_some_iff, lowered_eq_iff v.isPlainName_name]

namespace Style

def verbs : Style → List Verb
  | motion => [.moveTo, .drawTo]
  | shape => [.rectangle, .circle, .triangle]
  | setting => [.pen, .fill, .clear, .reset]
  | number | color _ | switch | unknown => []

/-- What a first word is shown as: the class of the verb that it is in lower case, if it is one. -/
inductive SuitsVerb (word : String) : Style → Prop
  | named {style : Style} {v : Verb} :
      v ∈ style.verbs → lowered word = v.name → SuitsVerb word style
  | unknown : (∀ v : Verb, lowered word ≠ v.name) → SuitsVerb word .unknown

/-- What any other word is shown as, whatever the verb before it takes. -/
inductive SuitsArgument (word : String) : Style → Prop
  | number {digits : List Char} {n : Int} :
      SpellsNumber word digits n → SuitsArgument word .number
  | color {c : PenColor} :
      c ∈ PenColor.choices → lowered word = c.name → SuitsArgument word (.color c)
  | switch {on : Bool} : lowered word = switchName on → SuitsArgument word .switch
  | unknown : (∀ digits n, ¬SpellsNumber word digits n) →
      (∀ c ∈ PenColor.choices, lowered word ≠ c.name) →
      (∀ on, lowered word ≠ switchName on) → SuitsArgument word .unknown

variable {word : String} {style : Style}

theorem ofVerb_eq_iff (v : Verb) : ofVerb v = style ↔ v ∈ style.verbs := by
  cases v <;> cases style <;> simp [ofVerb, verbs]

theorem ofFirstWord_eq_iff : ofFirstWord word = style ↔ style.SuitsVerb word := by
  rw [ofFirstWord]
  constructor
  · intro h
    split at h
    · next v hv =>
      have hname := (Verb.named?_eq_some_iff_lowered word v).1 hv
      exact .named ((ofVerb_eq_iff v).1 h) hname
    · next hv =>
      subst h
      refine .unknown fun v hname => ?_
      rw [(Verb.named?_eq_some_iff_lowered word v).2 hname] at hv
      cases hv
  · intro h
    cases h with
    | named hmem hname =>
      rw [(Verb.named?_eq_some_iff_lowered word _).2 hname]
      exact (ofVerb_eq_iff _).2 hmem
    | unknown hnone =>
      split
      · next v hv => exact absurd ((Verb.named?_eq_some_iff_lowered word v).1 hv) (hnone v)
      · rfl

theorem ofArgument_of_spellsNumber {digits : List Char} {n : Int}
    (h : SpellsNumber word digits n) : ofArgument word = number := by
  obtain ⟨negative, hnumeral, -⟩ := (spellsNumber_iff word digits n).1 h
  rw [ofArgument, hnumeral]
  rfl

theorem suitsArgument_ofArgument (word : String) : (ofArgument word).SuitsArgument word := by
  unfold ofArgument
  split
  · next hnumeral =>
    obtain ⟨⟨negative, digits⟩, hnumeral⟩ := Option.isSome_iff_exists.1 hnumeral
    exact .number ((spellsNumber_iff word digits _).2 ⟨negative, hnumeral, rfl⟩)
  · next hnumeral =>
    split
    · next c hread =>
      obtain ⟨hc, hs⟩ := (readColor_eq_value_iff word c).1 hread
      exact .color hc ((lowered_eq_iff (isPlainName_of_choice c hc) word).2 hs)
    · next hcolor =>
      split
      · next on hread =>
        have hs := (readSwitch_eq_value_iff word on).1 hread
        exact .switch ((lowered_eq_iff (isPlainName_switchName on) word).2 hs)
      · next hswitch =>
        refine .unknown (fun digits n h => ?_) (fun c hc hname => ?_) fun on hname => ?_
        · obtain ⟨negative, hsome, -⟩ := (spellsNumber_iff word digits n).1 h
          rw [hsome] at hnumeral
          exact hnumeral rfl
        · have hs := (lowered_eq_iff (isPlainName_of_choice c hc) word).1 hname
          exact hcolor c ((readColor_eq_value_iff word c).2 ⟨hc, hs⟩)
        · have hs := (lowered_eq_iff (isPlainName_switchName on) word).1 hname
          exact hswitch on ((readSwitch_eq_value_iff word on).2 hs)

theorem ofArgument_eq_iff : ofArgument word = style ↔ style.SuitsArgument word := by
  constructor
  · rintro rfl
    exact suitsArgument_ofArgument word
  · intro h
    cases h with
    | number h => exact ofArgument_of_spellsNumber h
    | color hc hname =>
      have hs := (lowered_eq_iff (isPlainName_of_choice _ hc) word).1 hname
      exact ofArgument_of_fits (.color hc hs)
    | switch hname =>
      have hs := (lowered_eq_iff (isPlainName_switchName _) word).1 hname
      exact ofArgument_of_fits (.switch hs)
    | unknown hnumber hcolor hswitch =>
      have hsuits := suitsArgument_ofArgument word
      generalize ofArgument word = style at hsuits
      cases hsuits with
      | number h => exact absurd h (hnumber _ _)
      | color hc hname => exact absurd hname (hcolor _ hc)
      | switch hname => exact absurd hname (hswitch _)
      | unknown => rfl

end Style

namespace Highlight

def stop (h : Highlight) : Nat := h.start + h.length

def text (line : String) (h : Highlight) : String :=
  String.ofList ((line.toList.drop h.start).take h.length)

/-- Behind so many characters of a line there are just these words, a space apart, and the character
before them is no part of a word. -/
structure Remain (cs : List Char) (start : Nat) (words : List (List Char)) : Prop where
  joined : cs.drop start = [' '].intercalate words
  unspaced : ∀ word ∈ words, ' ' ∉ word
  before : ∀ i, i + 1 = start → ¬IsInked cs i

/-- From a place on, the characters of a line other than spaces are those of the highlights. -/
structure Cover (cs : List Char) (start : Nat) (shown : List Highlight) : Prop where
  ahead : ∀ h ∈ shown, start ≤ h.start
  maximal : ∀ h ∈ shown, MaximalRun (IsInked cs) h.start h.stop
  ascending : shown.Pairwise fun h k => h.stop < k.start
  covering : ∀ i, start ≤ i → IsInked cs i → ∃ h ∈ shown, h.start ≤ i ∧ i < h.stop

variable {cs word : List Char} {start : Nat} {words : List (List Char)}

theorem remain_line (cs : List Char) : Remain cs 0 (cs.splitOn ' ') where
  joined := (List.intercalate_splitOn ' ').symm
  unspaced _ h := not_mem_of_mem_splitOn h
  before i h := absurd h (Nat.succ_ne_zero i)

namespace Remain

theorem exists_later (h : Remain cs start (word :: words)) :
    ∃ later, cs.drop start = word ++ later ∧ (∀ c ∈ later.head?, c = ' ') ∧
      later.tail = [' '].intercalate words := by
  rw [h.joined]
  cases words with
  | nil => exact ⟨[], by simp, by simp, rfl⟩
  | cons next words =>
    refine ⟨' ' :: [' '].intercalate (next :: words), ?_, by simp, rfl⟩
    rw [List.intercalate_cons_cons]
    simp

theorem inked (h : Remain cs start (word :: words)) {i : Nat} (hstart : start ≤ i)
    (hstop : i < start + word.length) : IsInked cs i := by
  obtain ⟨later, hcut, -⟩ := h.exists_later
  obtain ⟨j, rfl⟩ := Nat.exists_eq_add_of_le hstart
  have hj : j < word.length := Nat.lt_of_add_lt_add_left hstop
  refine ⟨word[j], ?_, fun hspace => ?_⟩
  · rw [← List.getElem?_drop, hcut, List.getElem?_append_left hj, List.getElem?_eq_getElem hj]
  · exact h.unspaced word List.mem_cons_self (hspace ▸ List.getElem_mem hj)

theorem not_inked_behind (h : Remain cs start (word :: words)) :
    ¬IsInked cs (start + word.length) := by
  obtain ⟨later, hcut, hspace, -⟩ := h.exists_later
  rintro ⟨c, hc, hne⟩
  rw [← List.getElem?_drop, hcut, List.getElem?_append_right le_rfl, Nat.sub_self,
    ← List.head?_eq_getElem?] at hc
  exact hne (hspace c hc)

theorem tail (h : Remain cs start (word :: words)) :
    Remain cs (start + word.length + 1) words where
  joined := by
    obtain ⟨later, hcut, -, htail⟩ := h.exists_later
    rw [← List.drop_drop, ← List.drop_drop, hcut, List.drop_left, List.drop_one, htail]
  unspaced w hw := h.unspaced w (List.mem_cons_of_mem _ hw)
  before i hi := by
    obtain rfl := Nat.succ.inj hi
    exact h.not_inked_behind

theorem take_eq (h : Remain cs start (word :: words)) :
    (cs.drop start).take word.length = word := by
  obtain ⟨later, hcut, -⟩ := h.exists_later
  rw [hcut, List.take_left]

theorem not_inked_of_nil (h : Remain cs start []) {i : Nat} (hi : start ≤ i) : ¬IsInked cs i := by
  rintro ⟨c, hc, -⟩
  obtain ⟨j, rfl⟩ := Nat.exists_eq_add_of_le hi
  rw [← List.getElem?_drop, h.joined] at hc
  cases hc

theorem maximalRun (h : Remain cs start (word :: words)) (hne : word ≠ []) :
    MaximalRun (IsInked cs) start (start + word.length) where
  nonempty := Nat.lt_add_of_pos_right (List.length_pos_iff.2 hne)
  inside _ := h.inked
  before := h.before
  behind := h.not_inked_behind

end Remain

theorem ofWords_nil_cons (start : Nat) (first : Bool) (words : List (List Char)) :
    ofWords start first ([] :: words) = ofWords (start + 1) first words := rfl

theorem ofWords_cons (start : Nat) (first : Bool) (hne : word ≠ []) (words : List (List Char)) :
    ofWords start first (word :: words) =
      ⟨start, word.length, if first then .ofFirstWord (String.ofList word)
        else .ofArgument (String.ofList word)⟩ ::
        ofWords (start + word.length + 1) false words := by
  rw [ofWords, if_neg (mt List.isEmpty_iff.1 hne)]

theorem Cover.cons {h : Highlight} {shown : List Highlight} (hc : Cover cs (h.stop + 1) shown)
    (hrun : MaximalRun (IsInked cs) h.start h.stop) : Cover cs h.start (h :: shown) where
  ahead k hk := by
    rcases List.mem_cons.1 hk with rfl | hk
    · exact le_rfl
    · exact (hrun.nonempty.le.trans (Nat.le_succ _)).trans (hc.ahead k hk)
  maximal k hk := by
    rcases List.mem_cons.1 hk with rfl | hk
    · exact hrun
    · exact hc.maximal k hk
  ascending := List.pairwise_cons.2 ⟨fun k hk => hc.ahead k hk, hc.ascending⟩
  covering i hi hink := by
    rcases Nat.lt_trichotomy i h.stop with hlt | rfl | hgt
    · exact ⟨h, List.mem_cons_self, hi, hlt⟩
    · exact absurd hink hrun.behind
    · obtain ⟨k, hk, hplace⟩ := hc.covering i hgt hink
      exact ⟨k, List.mem_cons_of_mem _ hk, hplace⟩

theorem Cover.of_not_inked {shown : List Highlight} (hc : Cover cs (start + 1) shown)
    (hstart : ¬IsInked cs start) : Cover cs start shown where
  ahead k hk := (Nat.le_succ _).trans (hc.ahead k hk)
  maximal := hc.maximal
  ascending := hc.ascending
  covering i hi hink := by
    rcases hi.eq_or_lt with rfl | hlt
    · exact absurd hink hstart
    · exact hc.covering i hlt hink

/-- The words that remain of a line are what is shown of it, whether or not one has been shown. -/
theorem Remain.cover (h : Remain cs start words) (first : Bool) :
    Cover cs start (ofWords start first words) := by
  induction words generalizing start first with
  | nil => exact ⟨nofun, nofun, .nil, fun i hi hink => absurd hink (h.not_inked_of_nil hi)⟩
  | cons word words ih =>
    by_cases hne : word = []
    · subst hne
      rw [ofWords_nil_cons]
      exact (ih h.tail first).of_not_inked h.not_inked_behind
    · rw [ofWords_cons start first hne]
      exact Cover.cons (h := ⟨start, word.length, _⟩) (ih h.tail false) (h.maximalRun hne)

theorem Remain.text_eq {line : String} (h : Remain line.toList start (word :: words))
    (style : Style) : text line ⟨start, word.length, style⟩ = String.ofList word :=
  congrArg String.ofList h.take_eq

/-- Behind the first word that is shown there are only arguments. -/
theorem Remain.style_of_mem {line : String} (h : Remain line.toList start words) :
    ∀ k ∈ ofWords start false words, k.style = .ofArgument (k.text line) := by
  induction words generalizing start with
  | nil => exact nofun
  | cons word words ih =>
    intro k hk
    by_cases hne : word = []
    · subst hne
      exact ih h.tail k hk
    · rw [ofWords_cons start false hne] at hk
      rcases List.mem_cons.1 hk with rfl | hk
      · rw [h.text_eq]
        rfl
      · exact ih h.tail k hk

/-- Empty words leave it open which word is the first. -/
theorem Remain.style_of_head {line : String} (h : Remain line.toList start words) {k : Highlight}
    {later : List Highlight} (hk : ofWords start true words = k :: later) :
    k.style = .ofFirstWord (k.text line) ∧ ∀ a ∈ later, a.style = .ofArgument (a.text line) := by
  induction words generalizing start with
  | nil => cases hk
  | cons word words ih =>
    by_cases hne : word = []
    · subst hne
      exact ih h.tail hk
    · rw [ofWords_cons start true hne] at hk
      obtain ⟨rfl, rfl⟩ := List.cons_eq_cons.1 hk
      exact ⟨by rw [h.text_eq]; rfl, h.tail.style_of_mem⟩

/-- There are only spaces between neighbours, for any other character would be covered. -/
theorem Cover.space_between {before later shown : List Highlight} {h k : Highlight}
    (hc : Cover cs 0 shown) (hshown : shown = before ++ h :: k :: later) {i : Nat}
    (hi : h.stop ≤ i) (hik : i < k.start) : cs[i]? = some ' ' := by
  have hhrun := hc.maximal h (by simp [hshown])
  have hkrun := hc.maximal k (by simp [hshown])
  have hstart : IsInked cs k.start := hkrun.inside k.start le_rfl hkrun.nonempty
  refine getElem?_of_not_inked (hik.trans hstart.lt_length) fun hink => ?_
  obtain ⟨m, hm, hmi, him⟩ := hc.covering i (Nat.zero_le i) hink
  have hhlt := hhrun.nonempty
  have hklt := hkrun.nonempty
  have hascending := hc.ascending
  rw [hshown, List.pairwise_append, List.pairwise_cons, List.pairwise_cons] at hascending
  obtain ⟨-, ⟨-, hlater, -⟩, hbefore⟩ := hascending
  rw [hshown, List.mem_append, List.mem_cons, List.mem_cons] at hm
  rcases hm with hm | rfl | rfl | hm
  · have hlt := hbefore m hm h List.mem_cons_self
    omega
  · omega
  · omega
  · have hlt := hlater m hm
    omega

theorem Cover.inside {shown : List Highlight} {h : Highlight} (hc : Cover cs start shown)
    (hh : h ∈ shown) : 0 < h.length ∧ h.stop ≤ cs.length := by
  have hrun := hc.maximal h hh
  have hpos : 0 < h.length := Nat.lt_add_right_iff_pos.1 hrun.nonempty
  have hlast : h.start + (h.length - 1) < h.stop := by
    rw [stop]
    omega
  have hlt := (hrun.inside _ (Nat.le_add_right _ _) hlast).lt_length
  rw [stop]
  omega

theorem Cover.space_not_mem {line : String} {shown : List Highlight} {h : Highlight}
    (hc : Cover line.toList start shown) (hh : h ∈ shown) : ' ' ∉ (h.text line).toList := by
  rw [text, String.toList_ofList]
  intro hspace
  obtain ⟨j, hj, hget⟩ := List.getElem_of_mem hspace
  rw [List.length_take] at hj
  have hlt : j < h.length := hj.trans_le (min_le_left _ _)
  obtain ⟨c, hc, hne⟩ := (hc.maximal h hh).inside (h.start + j) (Nat.le_add_right _ _)
    (Nat.add_lt_add_left hlt _)
  rw [List.getElem_take, List.getElem_drop] at hget
  exact hne ((List.getElem?_eq_some_iff.1 hc).2 ▸ hget)

end Highlight

/-- Highlights of a line that are its words: not empty, inside the line and without a space in them,
in ascending order with at least one space and nothing else between neighbours, and together all
characters that are no spaces. The first is shown as a verb and the others as arguments. -/
structure ShowsWords (line : String) (shown : List Highlight) : Prop where
  inside : ∀ h ∈ shown, 0 < h.length ∧ h.stop ≤ line.length
  unspaced : ∀ h ∈ shown, ' ' ∉ (h.text line).toList
  ascending : shown.Pairwise fun h k => h.stop < k.start
  spaces : ∀ before h k later, shown = before ++ h :: k :: later →
    ∀ i, h.stop ≤ i → i < k.start → line.toList[i]? = some ' '
  covering : ∀ i c, line.toList[i]? = some c → c ≠ ' ' → ∃ h ∈ shown, h.start ≤ i ∧ i < h.stop
  maximal : ∀ h ∈ shown, MaximalRun (IsInked line.toList) h.start h.stop
  verb : ∀ h later, shown = h :: later →
    ∀ style, h.style = style ↔ style.SuitsVerb (h.text line)
  arguments : ∀ h later, shown = h :: later →
    ∀ k ∈ later, ∀ style, k.style = style ↔ style.SuitsArgument (k.text line)

/-- The highlights of a line are its words. -/
theorem highlights_are_words (line : String) : ShowsWords line (Highlight.ofLine line) := by
  have hremain := Highlight.remain_line line.toList
  have hcover := hremain.cover true
  refine ⟨fun h hh => ?_, fun h => hcover.space_not_mem, hcover.ascending,
    fun before h k later hshown i => hcover.space_between hshown,
    fun i c hc hne => hcover.covering i (Nat.zero_le i) ⟨c, hc, hne⟩, hcover.maximal,
    fun h later hshown style => ?_, fun h later hshown k hk style => ?_⟩
  · rw [← String.length_toList]
    exact hcover.inside hh
  · rw [(hremain.style_of_head hshown).1]
    exact Style.ofFirstWord_eq_iff
  · rw [(hremain.style_of_head hshown).2 k hk]
    exact Style.ofArgument_eq_iff

/-- A verb is not known as an argument, whatever is before it. -/
example : Highlight.ofLine " Circle  circle 5 " =
    [⟨1, 6, .shape⟩, ⟨9, 6, .unknown⟩, ⟨16, 1, .number⟩] := by decide +kernel

end Drawboard

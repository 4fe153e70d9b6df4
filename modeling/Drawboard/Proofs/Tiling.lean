import Drawboard.Proofs.Places

/-! The words of a line tile it: each is what its span covers, neighbours have a single space between
them, and together they are the trimmed line. Blanks around a line that is not blank itself move its
words along and have no other effect, neither on the command that it is read as nor on what is said
against it. -/

namespace Drawboard

/-- Tokens stand in a line one after another: each is the word in its place, one that follows another
has a single space before it, and joined they are the trimmed line. -/
structure Tiles (line : String) (tokens : List Token) : Prop where
  inside : ∀ t ∈ tokens, 0 ≤ t.span.start ∧ t.span.start ≤ t.span.stop ∧ t.span.stop ≤ line.length
  covered : ∀ t ∈ tokens, t.span.slice line = t.text
  unspaced : ∀ t ∈ tokens, ' ' ∉ t.text.toList
  adjacent : ∀ before t t' later, tokens = before ++ t :: t' :: later →
    t'.span.start = t.span.stop + 1 ∧ line.toList[t.span.stop.toNat]? = some ' '
  joined : String.intercalate " " (tokens.map (·.text)) = trimmed line

def Span.shift (n : Nat) (s : Span) : Span := ⟨s.start + n, s.stop + n⟩

def Token.shift (n : Nat) (t : Token) : Token := { t with span := t.span.shift n }

def Phrase.shift (n : Nat) (p : Phrase) : Phrase := ⟨p.head.shift n, p.arguments.map (·.shift n)⟩

def Command.shift (n : Nat) (c : Command) : Command := { c with phrase := c.phrase.shift n }

def Rejection.shift (n : Nat) : Rejection → Rejection
  | unknownVerb word => unknownVerb (word.shift n)
  | wrongArity verb given span => wrongArity verb given (span.shift n)
  | badArgument verb slot word => badArgument verb slot (word.shift n)

def Refusal.shift (n : Nat) : Refusal → Refusal
  | rejected r => rejected (r.shift n)
  | overlong digits => overlong digits

/-- Two lines are read as the same command, or the same is said against them, but for places, which
are further on in the second line. -/
inductive ReadsFurther (n : Nat) : Except Refusal Command → Except Refusal Command → Prop
  | command {c c' : Command} : c'.action = c.action → c'.arguments = c.arguments →
      c'.text = c.text → c'.phrase.tokens = c.phrase.tokens.map (·.shift n) →
      ReadsFurther n (.ok c) (.ok c')
  | rejected {r r' : Rejection} : r'.kind = r.kind → r'.verb = r.verb → r'.message = r.message →
      r'.span = r.span.shift n → ReadsFurther n (.error (.rejected r)) (.error (.rejected r'))
  | overlong {digits : Nat} :
      ReadsFurther n (.error (.overlong digits)) (.error (.overlong digits))

namespace Text

variable {u cs v : List Char}

theorem trimRight_append_blank (hv : v.all isBlank = true) : trimRight (cs ++ v) = trimRight cs := by
  have hr : ∀ c ∈ v.reverse, isBlank c = true := fun c hc =>
    List.all_eq_true.1 hv c (List.mem_reverse.1 hc)
  rw [trimRight, List.reverse_append, List.dropWhile_append_of_pos hr, trimRight]

theorem trimLeft_ne_nil (hcs : cs.all isBlank = false) : trimLeft cs ≠ [] := by
  intro h
  rw [List.all_eq_true.2 (List.dropWhile_eq_nil_iff.1 h)] at hcs
  cases hcs

theorem trim_padded (hu : u.all isBlank = true) (hcs : cs.all isBlank = false)
    (hv : v.all isBlank = true) : trim (u ++ cs ++ v) = trim cs := by
  have hne : ¬(cs.dropWhile isBlank).isEmpty = true :=
    mt List.isEmpty_iff.1 (trimLeft_ne_nil hcs)
  have hleft : trimLeft (u ++ cs ++ v) = trimLeft cs ++ v := by
    rw [trimLeft, List.append_assoc, List.dropWhile_append_of_pos (List.all_eq_true.1 hu),
      List.dropWhile_append, if_neg hne, trimLeft]
  rw [trim, hleft, trimRight_append_blank hv, trim]

theorem indent_padded (hu : u.all isBlank = true) (hcs : cs.all isBlank = false) :
    indent (u ++ cs ++ v) = u.length + indent cs := by
  have hpart : (cs.takeWhile isBlank).length ≠ cs.length := by
    have hsum := congrArg List.length (List.takeWhile_append_dropWhile (p := isBlank) (l := cs))
    have hpos := List.length_pos_iff.2 (trimLeft_ne_nil hcs)
    rw [List.length_append] at hsum
    rw [trimLeft] at hpos
    omega
  rw [indent, List.append_assoc, List.takeWhile_append_of_pos (List.all_eq_true.1 hu),
    List.takeWhile_append, if_neg hpart, List.length_append, indent]

end Text

namespace Phrase

theorem place_shift (n start : Nat) (ws : List (List Char)) :
    place (n + start) ws = (place start ws).map (·.shift n) := by
  induction ws generalizing start with
  | nil => rfl
  | cons w ws ih =>
    have hnext : n + start + w.length + 1 = n + (start + w.length + 1) := by omega
    have hhead : tokenAt (n + start) w = (tokenAt start w).shift n := by
      simp only [tokenAt, Token.shift, Span.shift, Token.mk.injEq, Span.mk.injEq, true_and]
      constructor <;> push_cast <;> ring
    rw [place, hnext, ih, hhead, place, List.map_cons]

theorem tokens_shift (n : Nat) (p : Phrase) : (p.shift n).tokens = p.tokens.map (·.shift n) := rfl

theorem tokens_injective {p q : Phrase} (h : p.tokens = q.tokens) : p = q := by
  obtain ⟨hhead, harguments⟩ := List.cons_eq_cons.1 h
  cases p
  cases q
  simp_all

/-- The words of a line that has blanks put around it are further on by those in front. -/
theorem ofLine_padded {u line v : String} (hu : isBlankText u = true)
    (hline : isBlankText line = false) (hv : isBlankText v = true) :
    ofLine (u ++ line ++ v) = (ofLine line).shift u.length := by
  apply tokens_injective
  rw [tokens_shift, tokens_ofLine, tokens_ofLine, String.toList_append, String.toList_append,
    Text.trim_padded hu hline hv, Text.indent_padded hu hline, String.length_toList, place_shift]

theorem stop_shift (n : Nat) (p : Phrase) : (p.shift n).stop = p.stop + n := by
  rw [stop, shift, List.getLast?_map, stop]
  cases p.arguments.getLast? <;> rfl

end Phrase

theorem readArgument_shift (n : Nat) (verb : Verb) (slot : Slot) (word : Token) :
    readArgument verb slot (word.shift n) =
      (readArgument verb slot word).mapError (Refusal.shift n) := by
  have htext : (word.shift n).text = word.text := rfl
  rw [readArgument, htext, readArgument]
  cases slot.kind.read word.text <;> rfl

theorem readArguments_shift (n : Nat) (verb : Verb) (slots : List Slot) (words : List Token)
    (h : words.length = slots.length) (h' : (words.map (·.shift n)).length = slots.length) :
    readArguments verb slots (words.map (·.shift n)) h' =
      (readArguments verb slots words h).mapError (Refusal.shift n) := by
  induction slots generalizing words with
  | nil =>
    match words, h with
    | [], _ => rfl
  | cons slot slots ih =>
    match words, h with
    | word :: words, h =>
      simp only [List.map_cons, readArguments]
      rw [readArgument_shift, ih words (Nat.succ.inj h)]
      cases readArgument verb slot word with
      | error r => rfl
      | ok value => cases readArguments verb slots words (Nat.succ.inj h) <;> rfl

namespace Phrase

/-- Words further on are read as the same, and what is said against them is said further on. -/
theorem parse_shift (n : Nat) (p : Phrase) :
    (p.shift n).parse = (p.parse.map (Command.shift n)).mapError (Refusal.shift n) := by
  have hhead : (p.shift n).head.text = p.head.text := rfl
  have hlength : (p.shift n).arguments.length = p.arguments.length := List.length_map _
  unfold parse
  rw [hhead]
  cases Verb.named? (lowered p.head.text) with
  | none => rfl
  | some verb =>
    dsimp only
    by_cases h : p.arguments.length = verb.slots.length
    · rw [dif_pos h, dif_pos (hlength.trans h)]
      have hread : readArguments verb verb.slots (p.shift n).arguments (hlength.trans h) = _ :=
        readArguments_shift n verb verb.slots p.arguments h _
      rw [hread]
      cases readArguments verb verb.slots p.arguments h <;> rfl
    · rw [dif_neg h, dif_neg (hlength ▸ h), hlength, stop_shift]
      rfl

end Phrase

theorem Command.arguments_shift (n : Nat) (c : Command) : (c.shift n).arguments = c.arguments := by
  have harguments : (c.shift n).phrase.arguments = c.phrase.arguments.map (·.shift n) := rfl
  rw [arguments, harguments, List.map_map, arguments]
  rfl

theorem readsFurther_shift (n : Nat) (read : Except Refusal Command) :
    ReadsFurther n read ((read.map (Command.shift n)).mapError (Refusal.shift n)) := by
  cases read with
  | ok c =>
    have harguments := c.arguments_shift n
    have htext : (c.shift n).text = c.text := by
      rw [Command.text, harguments, Command.text]
      rfl
    exact .command rfl harguments htext rfl
  | error refusal =>
    cases refusal with
    | overlong digits => exact .overlong
    | rejected r => cases r <;> exact .rejected rfl rfl rfl rfl

namespace Phrase

theorem adjacent_ofLine {line : String} {before later : List Token} {t t' : Token}
    (h : (ofLine line).tokens = before ++ t :: t' :: later) :
    t'.span.start = t.span.stop + 1 ∧ line.toList[t.span.stop.toNat]? = some ' ' := by
  obtain ⟨bs, w, ls, hws, hbefore, htext, hspan, hlength⟩ := of_tokens_eq_append h
  constructor
  · have hnext : (ofLine line).tokens = (before ++ [t]) ++ t' :: later := by
      rw [h, List.append_assoc, List.singleton_append]
    obtain ⟨-, -, hstart⟩ := slice_word h
    obtain ⟨-, -, hstart'⟩ := slice_word hnext
    have hstop : t.span.stop = t.span.start + t.text.length := by
      rw [hspan, htext, Span.behind, String.length_ofList]
      push_cast
      rfl
    rw [hstart', hstop, hstart, List.map_append, placeAfter, placeAfter]
    simp
    omega
  · obtain ⟨l, ls, rfl⟩ := List.exists_cons_of_length_eq_add_one hlength.symm
    obtain ⟨after, hline⟩ := exists_toList_eq line
    rw [trim_eq_of_splitOn hws] at hline
    let front := line.toList.takeWhile Text.isBlank ++ spaced bs
    let rest := l ++ ls.flatMap (' ' :: ·) ++ after
    have hstop : t.span.stop.toNat = (front ++ w).length := by
      rw [hspan, List.length_append]
      rfl
    have hspace : line.toList = front ++ w ++ ' ' :: rest := by
      rw [hline]
      simp [front, rest]
    have hget : (front ++ w ++ ' ' :: rest)[(front ++ w).length]? = some ' ' := by
      rw [List.getElem?_append_right le_rfl, Nat.sub_self]
      rfl
    rw [hstop]
    exact (congrArg (·[(front ++ w).length]?) hspace).trans hget

theorem tiles_ofLine (line : String) : Tiles line (ofLine line).tokens where
  inside t ht := by
    obtain ⟨before, later, h⟩ := List.append_of_mem ht
    exact (slice_word h).2.1
  covered t ht := by
    obtain ⟨before, later, h⟩ := List.append_of_mem ht
    exact (slice_word h).1
  unspaced t ht := not_mem_words_ofLine (List.mem_map_of_mem ht)
  adjacent _ _ _ _ h := adjacent_ofLine h
  joined := intercalate_words_ofLine line

theorem tokens_of_blank {line : String} (h : isBlankText line = true) :
    (ofLine line).tokens = [⟨"", ⟨line.length, line.length⟩⟩] := by
  have hindent : Text.indent line.toList = line.length := by
    rw [Text.indent, List.takeWhile_eq_self_iff.2 (List.all_eq_true.1 h), String.length_toList]
  rw [tokens_ofLine, (Text.trim_eq_nil_iff _).2 h, hindent]
  rfl

end Phrase

/-- The words of a line tile it. A blank line has just an empty word at its end. Blanks put around any
other line move its words along by those in front, and so they do with what it is read as. -/
theorem words_tile_line (line : String) :
    (Phrase.ofLine line).tokens ≠ [] ∧ Tiles line (Phrase.ofLine line).tokens ∧
      (isBlankText line = true →
        (Phrase.ofLine line).tokens = [⟨"", ⟨line.length, line.length⟩⟩]) ∧
      ∀ u v : String, isBlankText line = false → isBlankText u = true → isBlankText v = true →
        (Phrase.ofLine (u ++ line ++ v)).tokens =
            (Phrase.ofLine line).tokens.map (·.shift u.length) ∧
          ReadsFurther u.length (parse line) (parse (u ++ line ++ v)) := by
  refine ⟨List.cons_ne_nil _ _, Phrase.tiles_ofLine line, Phrase.tokens_of_blank,
    fun u v hline hu hv => ?_⟩
  have hpadded := Phrase.ofLine_padded hu hline hv
  constructor
  · rw [hpadded, Phrase.tokens_shift]
  · have hread : parse (u ++ line ++ v) =
        ((parse line).map (Command.shift u.length)).mapError (Refusal.shift u.length) := by
      unfold parse
      rw [hpadded, Phrase.parse_shift]
    rw [hread]
    exact readsFurther_shift _ _

/-- Behind a tab and an ideographic space the same radius is rejected two characters further on. -/
theorem padded_radius_is_rejected_further_on :
    let line := "circle 1x"
    let padded := "\t\u3000" ++ line ++ " "
    (Phrase.ofLine "\t ").tokens = [⟨"", ⟨2, 2⟩⟩] ∧
      (Phrase.ofLine padded).tokens = [⟨"circle", ⟨2, 8⟩⟩, ⟨"1x", ⟨9, 11⟩⟩] ∧
      ReadsFurther 2 (parse line) (parse padded) := by
  intro line padded
  obtain ⟨-, -, hblank, -⟩ := words_tile_line "\t "
  obtain ⟨-, -, -, hpadded⟩ := words_tile_line line
  obtain ⟨htokens, hread⟩ := hpadded "\t\u3000" " " (by decide) (by decide) (by decide)
  refine ⟨hblank (by decide), ?_, hread⟩
  rw [htokens]
  decide +kernel

end Drawboard

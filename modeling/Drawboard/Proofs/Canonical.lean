import Drawboard.Proofs.Grammar
import Drawboard.Session.Basic

/-! A line that is read as a command is read as the same one once it has been trimmed, and then it
is not blank and has no line end in it. So such lines, joined by line ends, are a program of just
these lines. -/

namespace Drawboard

/-- What a line does, if it is a command. -/
def action? (line : String) : Option Action := (parse line).toOption.map (·.action)

theorem action?_of_parse {line : String} {c : Command} (h : parse line = .ok c) :
    action? line = some c.action := by
  rw [action?, h]
  rfl

theorem exists_parse_of_action? {line : String} {action : Action}
    (h : action? line = some action) : ∃ c, parse line = .ok c ∧ c.action = action := by
  unfold action? at h
  cases hp : parse line with
  | ok c =>
    rw [hp] at h
    exact ⟨c, rfl, Option.some.inj h⟩
  | error r =>
    rw [hp] at h
    cases h

/-- Only the trimmed text of a line decides what it does. -/
theorem action?_trimmed {line : String} {action : Action} (h : action? line = some action) :
    action? (trimmed line) = some action := by
  obtain ⟨c, hc, rfl⟩ := exists_parse_of_action? h
  obtain ⟨word, hl, hw⟩ := sentence_of_parse hc
  have hs : Sentence (trimmed line) c.verb c.arguments c.action.values :=
    ⟨word, (trimmed_trimmed line).trans hl, hw⟩
  obtain ⟨c', hc', hv, -, hvs⟩ := exists_command_of_sentence hs
  rw [action?_of_parse hc', Action.ext_values hv hvs]

theorem mem_intercalate {α : Type} {sep : List α} {a : α} {ls : List (List α)}
    (h : a ∈ sep.intercalate ls) : a ∈ sep ∨ ∃ l ∈ ls, a ∈ l := by
  induction ls with
  | nil => cases h
  | cons l ls ih =>
    cases ls with
    | nil =>
      rw [List.intercalate_singleton] at h
      exact Or.inr ⟨l, List.mem_cons_self, h⟩
    | cons m ms =>
      rw [List.intercalate_cons_cons, List.mem_append, List.mem_append] at h
      rcases h with (h | h) | h
      · exact Or.inr ⟨l, List.mem_cons_self, h⟩
      · exact Or.inl h
      · rcases ih h with h | ⟨k, hk, ha⟩
        · exact Or.inl h
        · exact Or.inr ⟨k, List.mem_cons_of_mem _ hk, ha⟩

theorem Spells.newline_not_mem {word name : String} (h : Spells word name)
    (hn : '\n' ∉ name.toList) : '\n' ∉ word.toList := by
  intro hm
  have := List.mem_map_of_mem (f := Char.toLower) hm
  rw [h] at this
  exact hn this

theorem Fits.newline_not_mem {kind : SlotKind} {word : String} {value : Value}
    (h : Fits kind word value) : '\n' ∉ word.toList := by
  cases h with
  | integer h =>
    intro hm
    have := h.chars.2 '\n' hm
    revert this
    decide
  | color hc hs =>
    exact hs.newline_not_mem ((by decide : ∀ c ∈ PenColor.choices, '\n' ∉ c.name.toList) _ hc)
  | @switch _ on hs => exact hs.newline_not_mem (by cases on <;> decide)

theorem FitAll.newline_not_mem {slots : List Slot} {words : List String} {values : List Value}
    (h : FitAll slots words values) : ∀ w ∈ words, '\n' ∉ w.toList := by
  induction h with
  | nil => simp
  | cons hv _ ih => exact List.forall_mem_cons.2 ⟨hv.newline_not_mem, ih⟩

theorem Verb.newline_not_mem (verb : Verb) : '\n' ∉ verb.name.toList := by
  cases verb <;> decide

theorem newline_not_mem_trimmed {line : String} {action : Action}
    (h : action? line = some action) : '\n' ∉ (trimmed line).toList := by
  obtain ⟨c, hc, rfl⟩ := exists_parse_of_action? h
  obtain ⟨word, hl, -, hs, hf⟩ := sentence_of_parse hc
  rw [hl, String.toList_intercalate]
  intro h
  rcases mem_intercalate h with hm | ⟨cs, hcs, hm⟩
  · revert hm
    decide
  · obtain ⟨w, hw, rfl⟩ := List.mem_map.1 hcs
    rcases List.mem_cons.1 hw with rfl | hw
    · exact hs.newline_not_mem c.verb.newline_not_mem hm
    · exact hf.newline_not_mem w hw hm

theorem not_blank_of_action? {line : String} {action : Action} (h : action? line = some action) :
    line.toList.all Text.isBlank = false := by
  obtain ⟨c, hc, rfl⟩ := exists_parse_of_action? h
  obtain ⟨word, hw, hs, -⟩ := (sentence_iff_words _ _ _ _).1 (sentence_of_parse hc)
  rw [← Bool.not_eq_true, ← Text.trim_eq_nil_iff]
  intro h0
  rw [Phrase.words_ofLine, h0, List.splitOn_nil, List.map_singleton] at hw
  obtain ⟨rfl, -⟩ := List.cons_eq_cons.1 hw
  have hempty : c.verb.name.toList = [] := hs.symm.trans (by decide)
  revert hempty
  cases c.verb <;> decide

/-- Lines as a history holds them. -/
structure Canonical (line : String) : Prop where
  trimmed_eq : trimmed line = line
  no_newline : '\n' ∉ line.toList
  not_blank : line.toList.all Text.isBlank = false
  reads : ∃ action, action? line = some action

theorem canonical_trimmed {line : String} {action : Action} (h : action? line = some action) :
    Canonical (trimmed line) where
  trimmed_eq := trimmed_trimmed line
  no_newline := newline_not_mem_trimmed h
  not_blank := not_blank_of_action? (action?_trimmed h)
  reads := ⟨action, action?_trimmed h⟩

end Drawboard

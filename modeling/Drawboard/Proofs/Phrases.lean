import Drawboard.Command.Token
import Mathlib.Data.List.DropRight

/-! Trimming a line and cutting it into words: the words of a phrase are the pieces between single
spaces of the trimmed line, and joined by single spaces they are the trimmed line again. -/

namespace Drawboard

namespace Text

theorem trimRight_prefix (cs : List Char) : trimRight cs <+: cs :=
  List.rdropWhile_prefix isBlank cs

theorem head_trimLeft {c : Char} {cs ds : List Char} (h : trimLeft cs = c :: ds) :
    isBlank c = false := by
  have hne : trimLeft cs ≠ [] := by simp [h]
  have hb : isBlank ((trimLeft cs).head hne) = false := List.head_dropWhile_not isBlank hne
  simpa only [h, List.head_cons] using hb

theorem trimLeft_of_head {c : Char} {cs : List Char} (h : isBlank c = false) :
    trimLeft (c :: cs) = c :: cs := by
  rw [trimLeft, List.dropWhile_cons_of_neg (by simp [h])]

theorem trimLeft_trim (cs : List Char) : trimLeft (trim cs) = trim cs := by
  cases hr : trim cs with
  | nil => rfl
  | cons c rest =>
    obtain ⟨t, ht⟩ := trimRight_prefix (trimLeft cs)
    have hl : trimLeft cs = c :: (rest ++ t) := by
      rw [← ht, ← List.cons_append]
      exact congrArg (· ++ t) hr
    exact trimLeft_of_head (head_trimLeft hl)

theorem trimRight_trim (cs : List Char) : trimRight (trim cs) = trim cs :=
  List.rdropWhile_idempotent isBlank (trimLeft cs)

theorem trim_trim (cs : List Char) : trim (trim cs) = trim cs := by
  rw [trim, trimLeft_trim, trimRight_trim]

theorem trim_eq_nil_iff (cs : List Char) : trim cs = [] ↔ cs.all isBlank = true := by
  rw [List.all_eq_true]
  constructor
  · intro h c hc
    by_contra hb
    have hl : trimLeft cs ≠ [] := fun h0 => hb (List.dropWhile_eq_nil_iff.1 h0 c hc)
    obtain ⟨d, ds, hd⟩ := List.exists_cons_of_ne_nil hl
    have hall := List.rdropWhile_eq_nil_iff.1 (show (trimLeft cs).rdropWhile isBlank = [] from h)
    have hbl := head_trimLeft hd
    rw [hall d (by rw [hd]; exact List.mem_cons_self)] at hbl
    cases hbl
  · intro h
    rw [trim, trimLeft, List.dropWhile_eq_nil_iff.2 h]
    rfl

end Text

theorem trimmed_trimmed (s : String) : trimmed (trimmed s) = trimmed s := by
  simp only [trimmed, String.toList_ofList, Text.trim_trim]

theorem toList_trimmed (s : String) : (trimmed s).toList = Text.trim s.toList := by
  rw [trimmed, String.toList_ofList]

theorem trimmed_eq_self {line : String} {c d : Char} {cs : List Char}
    (h : line.toList = c :: (cs ++ [d])) (hc : Text.isBlank c = false)
    (hd : Text.isBlank d = false) : trimmed line = line := by
  rw [← String.toList_inj, toList_trimmed, h, Text.trim, Text.trimLeft_of_head hc]
  have hconcat : c :: (cs ++ [d]) = (c :: cs) ++ [d] := rfl
  rw [hconcat]
  exact List.rdropWhile_concat_neg Text.isBlank (c :: cs) d (by simp [hd])

theorem not_mem_of_mem_splitOn {a : Char} {cs piece : List Char} (h : piece ∈ cs.splitOn a) :
    a ∉ piece := by
  induction cs generalizing piece with
  | nil =>
    rw [List.splitOn_nil, List.mem_singleton] at h
    simp [h]
  | cons c cs ih =>
    rw [List.splitOn_cons_eq_if_modifyHead] at h
    split at h
    · rcases List.mem_cons.1 h with rfl | h
      · exact List.not_mem_nil
      · exact ih h
    · next hc =>
      obtain ⟨p, ps, hp⟩ := List.exists_cons_of_ne_nil (List.splitOn_ne_nil a cs)
      rw [hp, List.modifyHead_cons] at h
      rcases List.mem_cons.1 h with rfl | h
      · intro hm
        rcases List.mem_cons.1 hm with rfl | hm
        · simp at hc
        · exact ih (hp ▸ List.mem_cons_self) hm
      · exact ih (hp ▸ List.mem_cons_of_mem _ h)

namespace Phrase

def words (p : Phrase) : List String := p.tokens.map (·.text)

theorem map_text_place (start : Nat) (ws : List (List Char)) :
    (place start ws).map (·.text) = ws.map String.ofList := by
  induction ws generalizing start with
  | nil => rfl
  | cons w ws ih => simp only [place, List.map_cons, ih, tokenAt]

theorem words_ofLine (line : String) :
    (ofLine line).words = ((Text.trim line.toList).splitOn ' ').map String.ofList := by
  have hne := List.splitOn_ne_nil ' ' (Text.trim line.toList)
  rw [words, tokens, ofLine, ofWords, List.map_cons, map_text_place]
  conv_rhs => rw [← List.cons_head_tail hne, List.map_cons]
  rfl

theorem intercalate_words_ofLine (line : String) :
    String.intercalate " " (ofLine line).words = trimmed line := by
  rw [← String.toList_inj, String.toList_intercalate, toList_trimmed, words_ofLine, List.map_map,
    show String.toList ∘ String.ofList = id from funext fun _ => String.toList_ofList, List.map_id]
  exact List.intercalate_splitOn ' '

theorem not_mem_words_ofLine {line w : String} (h : w ∈ (ofLine line).words) : ' ' ∉ w.toList := by
  rw [words_ofLine] at h
  obtain ⟨piece, hp, rfl⟩ := List.mem_map.1 h
  rw [String.toList_ofList]
  exact not_mem_of_mem_splitOn hp

theorem words_ofLine_of_intercalate {line : String} {ws : List String} (hne : ws ≠ [])
    (hw : ∀ w ∈ ws, ' ' ∉ w.toList) (h : trimmed line = String.intercalate " " ws) :
    (ofLine line).words = ws := by
  have hl : Text.trim line.toList = [' '].intercalate (ws.map String.toList) := by
    rw [← toList_trimmed, h, String.toList_intercalate]
    rfl
  rw [words_ofLine, hl, List.splitOn_intercalate ' ' (by simpa using hw) (by simpa using hne),
    List.map_map,
    show String.ofList ∘ String.toList = id from funext fun _ => String.ofList_toList, List.map_id]

end Phrase

end Drawboard

import Drawboard.Text.Lower

/-! Lower-casing knows all of Unicode, and still a word becomes a word of plain letters only if it
differs from it in the case of ASCII letters. Plain letters are the small ASCII letters without `k`,
which is what the Kelvin sign is lowered to. -/

namespace Drawboard

namespace Text

theorem toNat_toLower (c : Char) :
    c.toLower.toNat = if 65 ≤ c.toNat ∧ c.toNat ≤ 90 then c.toNat + 32 else c.toNat := by
  unfold Char.toLower
  split <;> rename_i h
  · have hle : c.toNat ≤ 90 := h.2
    rw [if_pos ⟨h.1, hle⟩]
    change (c.val + 32).toNat = c.val.toNat + 32
    rw [UInt32.toNat_add, Nat.mod_eq_of_lt]
    · rfl
    · exact Nat.lt_of_le_of_lt (Nat.add_le_add_right hle 32) (by decide)
  · exact (if_neg h).symm

theorem toLower_eq_self {c : Char} (h : ¬(65 ≤ c.toNat ∧ c.toNat ≤ 90)) : c.toLower = c := by
  rw [← Char.toNat_inj, toNat_toLower, if_neg h]

theorem toNat_ofNat (n : Nat) : (Char.ofNat n).toNat = n ∨ (Char.ofNat n).toNat = 0 := by
  unfold Char.ofNat
  by_cases h : n.isValidChar
  · rw [dif_pos h]
    exact Or.inl rfl
  · rw [dif_neg h]
    exact Or.inr rfl

def IsPlain (c : Char) : Prop := 97 ≤ c.toNat ∧ c.toNat ≤ 122 ∧ c ≠ 'k'

instance (c : Char) : Decidable (IsPlain c) := inferInstanceAs (Decidable (_ ∧ _))

/-- A run from beyond ASCII that does not lead into ASCII, or the one of the Kelvin sign. -/
def CaseRun.IsForeign (r : CaseRun) : Prop :=
  128 ≤ r.first ∧
    (128 ≤ r.first + r.shift ∨ (r.first = 0x212a ∧ r.last = 0x212a ∧ r.first + r.shift = 107))

instance (r : CaseRun) : Decidable r.IsForeign := inferInstanceAs (Decidable (_ ∧ _))

theorem lowerRuns_eq : lowerRuns = ⟨65, 90, 1, 32⟩ :: lowerRuns.tail := rfl

theorem isForeign_of_mem_tail : ∀ r ∈ lowerRuns.tail, r.IsForeign := by decide +kernel

theorem covers_first (n : Nat) : (CaseRun.mk 65 90 1 32).covers n = (65 ≤ n && n ≤ 90) := by
  simp [CaseRun.covers, Nat.mod_one]

theorem find?_tail_eq_none {n : Nat} (h : n < 128) :
    lowerRuns.tail.find? (·.covers n) = none := by
  rw [List.find?_eq_none]
  intro r hr hc
  have := (isForeign_of_mem_tail r hr).1
  simp only [CaseRun.covers, Bool.and_eq_true, decide_eq_true_eq] at hc
  omega

theorem lowerChar_ascii {c : Char} (h : c.toNat < 128) : lowerChar c = [c.toLower] := by
  rw [lowerChar, if_neg (by omega), lowerRuns_eq, List.find?_cons, covers_first]
  by_cases hu : 65 ≤ c.toNat ∧ c.toNat ≤ 90
  · have hn : ((c.toNat : Int) + 32).toNat = c.toNat + 32 := by omega
    have hv : (Char.ofNat (c.toNat + 32)).toNat = c.toNat + 32 :=
      (toNat_ofNat _).resolve_right fun h0 => by
        have : (c.toNat + 32).isValidChar := Or.inl (by omega)
        rw [Char.ofNat, dif_pos this] at h0
        change c.toNat + 32 = 0 at h0
        omega
    simp only [hu, decide_true, Bool.and_self, hn, List.cons.injEq, and_true]
    rw [← Char.toNat_inj, hv, toNat_toLower, if_pos hu]
  · have hf : (decide (65 ≤ c.toNat) && decide (c.toNat ≤ 90)) = false := by
      simpa [Bool.and_eq_false_iff] using fun h1 => Nat.lt_of_not_le fun h2 => hu ⟨h1, h2⟩
    simp only [hf, find?_tail_eq_none h, toLower_eq_self hu]

/-- What a character beyond ASCII is lowered to holds no capital and something that is not plain. -/
theorem lowerChar_foreign {c : Char} (h : 128 ≤ c.toNat) :
    (∀ d ∈ lowerChar c, d.toLower = d) ∧ ∃ d ∈ lowerChar c, ¬IsPlain d := by
  unfold lowerChar
  split
  · have hi : 'i'.toLower = 'i' := by decide
    have hdot : (Char.ofNat 0x307).toLower = Char.ofNat 0x307 := by decide
    refine ⟨List.forall_mem_cons.2 ⟨hi, List.forall_mem_cons.2 ⟨hdot, nofun⟩⟩,
      Char.ofNat 0x307, List.mem_cons_of_mem _ (List.mem_singleton_self _), by decide⟩
  · split
    · next r hr =>
      have hm := List.mem_of_find?_eq_some hr
      have hc := List.find?_some hr
      rw [lowerRuns_eq, List.mem_cons] at hm
      simp only [CaseRun.covers, Bool.and_eq_true, decide_eq_true_eq] at hc
      rcases hm with rfl | hm
      · exact absurd hc.1.2 (by change ¬c.toNat ≤ 90; omega)
      obtain ⟨-, hs⟩ := isForeign_of_mem_tail r hm
      have ht := toNat_ofNat (c.toNat + r.shift).toNat
      simp only [List.mem_singleton, forall_eq, exists_eq_left]
      refine ⟨toLower_eq_self (by omega), fun hp => ?_⟩
      have hk : (Char.ofNat (c.toNat + r.shift).toNat).toNat ≠ 107 := fun he =>
        hp.2.2 (by rw [← Char.toNat_inj]; exact he)
      have := hp.1
      have := hp.2.1
      omega
    · simp only [List.mem_singleton, forall_eq, exists_eq_left]
      exact ⟨toLower_eq_self (by omega), fun hp => by have := hp.2.1; omega⟩

theorem lowerSigma_foreign (before after : List Char) : 128 ≤ (lowerSigma before after).toNat := by
  unfold lowerSigma
  split <;> decide

theorem lowerAfter_cons_ascii {c : Char} (h : c.toNat < 128) (before rest : List Char) :
    lowerAfter before (c :: rest) = c.toLower :: lowerAfter (c :: before) rest := by
  rw [lowerAfter, if_neg (by omega), lowerChar_ascii h, List.singleton_append]

theorem lowerAfter_cons_foreign {c : Char} (h : 128 ≤ c.toNat) (before rest : List Char) :
    ∃ d ∈ lowerAfter before (c :: rest), ¬IsPlain d := by
  rw [lowerAfter]
  split
  · refine ⟨_, List.mem_append_left _ (List.mem_singleton_self _), fun hp => ?_⟩
    have := lowerSigma_foreign before rest
    have := hp.2.1
    omega
  · obtain ⟨d, hd, hp⟩ := (lowerChar_foreign h).2
    exact ⟨d, List.mem_append_left _ hd, hp⟩

theorem lowerAfter_eq_iff {out : List Char} (hout : ∀ d ∈ out, IsPlain d)
    (before cs : List Char) : lowerAfter before cs = out ↔ cs.map Char.toLower = out := by
  induction cs generalizing before out with
  | nil => rfl
  | cons c rest ih =>
    rcases Nat.lt_or_ge c.toNat 128 with ha | hf
    · rw [lowerAfter_cons_ascii ha, List.map_cons]
      cases out with
      | nil => simp
      | cons d ds => simp [ih (fun x hx => hout x (List.mem_cons_of_mem _ hx))]
    · constructor
      · rintro rfl
        obtain ⟨d, hd, hp⟩ := lowerAfter_cons_foreign hf before rest
        exact absurd (hout d hd) hp
      · rintro rfl
        have hp := hout c.toLower (by simp)
        rw [toLower_eq_self (by omega)] at hp
        have := hp.2.1
        omega

theorem toLower_of_mem_lowerAfter (before cs : List Char) :
    ∀ d ∈ lowerAfter before cs, d.toLower = d := by
  induction cs generalizing before with
  | nil => simp [lowerAfter]
  | cons c rest ih =>
    intro d hd
    rw [lowerAfter, List.mem_append] at hd
    rcases hd with hd | hd
    · split at hd
      · rw [List.mem_singleton.1 hd]
        exact toLower_eq_self (by have := lowerSigma_foreign before rest; omega)
      · rcases Nat.lt_or_ge c.toNat 128 with ha | hf
        · rw [lowerChar_ascii ha, List.mem_singleton] at hd
          subst hd
          refine toLower_eq_self ?_
          rw [toNat_toLower]
          split <;> omega
        · exact (lowerChar_foreign hf).1 d hd
    · exact ih _ d hd

end Text

/-- A word is a name but for the case of ASCII letters. -/
def Spells (word name : String) : Prop := word.toList.map Char.toLower = name.toList

instance (word name : String) : Decidable (Spells word name) :=
  inferInstanceAs (Decidable (_ = _))

def IsPlainName (name : String) : Prop := ∀ c ∈ name.toList, Text.IsPlain c

instance (name : String) : Decidable (IsPlainName name) :=
  List.decidableBAll Text.IsPlain name.toList

theorem lowered_eq_iff {name : String} (h : IsPlainName name) (word : String) :
    lowered word = name ↔ Spells word name := by
  rw [lowered, Spells, ← Text.lowerAfter_eq_iff h [], ← String.toList_inj, String.toList_ofList]
  rfl

theorem spells_lowered_iff {name : String} (h : IsPlainName name) (word : String) :
    Spells (lowered word) name ↔ Spells word name := by
  have hid : (lowered word).toList.map Char.toLower = (lowered word).toList := by
    rw [lowered, String.toList_ofList]
    exact (List.map_congr_left (Text.toLower_of_mem_lowerAfter [] word.toList)).trans
      (List.map_id _)
  rw [Spells, hid, String.toList_inj, lowered_eq_iff h]

theorem Spells.ascii {word name : String} (hw : Spells word name) (h : IsPlainName name) :
    ∀ c ∈ word.toList, c.toNat < 128 := by
  intro c hc
  have hp := h c.toLower (by rw [← hw]; exact List.mem_map_of_mem hc)
  have hu : c.toLower.toNat ≤ 122 := hp.2.1
  rw [Text.toNat_toLower] at hu
  split at hu <;> omega

end Drawboard

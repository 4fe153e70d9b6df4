import Drawboard.Config.File
import Drawboard.Files
import Drawboard.Proofs.Documents

/-! A configuration that is saved is loaded again as it was if its sizes are positive, whatever its
texts are. The file is ASCII without carriage returns, so neither an encoding nor the rule for line
ends changes it. -/

namespace Drawboard

namespace Files

theorem read_of_write {files saved : Files} {path text : String}
    (h : files.write path text = .ok saved) : saved.read path = .ok text := by
  unfold write at h
  split at h
  · next name hname =>
    cases h
    simp [read, hname]
  · cases h

theorem unifyLineEnds_eq_self {cs : List Char} (h : '\r' ∉ cs) : unifyLineEnds cs = cs := by
  induction cs with
  | nil => rfl
  | cons c cs ih =>
    rw [List.mem_cons, not_or] at h
    rw [unifyLineEnds.eq_3 _ _ (fun _ hc _ => h.1 hc.symm) (fun hc => h.1 hc.symm), ih h.2]

end Files

theorem Json.member?_of_mem {members : List (Units × Json)} (hkeys : (members.map (·.1)).Nodup)
    {key : Units} {v : Json} (h : (key, v) ∈ members) : member? key members = some v := by
  induction members with
  | nil => cases h
  | cons m members ih =>
    rw [List.map_cons, List.nodup_cons] at hkeys
    rcases List.mem_cons.1 h with rfl | hmem
    · exact if_pos rfl
    · have hne : m.1 ≠ key := by
        rintro rfl
        exact hkeys.1 (List.mem_map.2 ⟨_, hmem, rfl⟩)
      rw [member?, if_neg hne, ih hkeys.2 hmem]

namespace Config

def Storable (c : Config) : Prop := ∀ m ∈ c.members, m.2.Storable

theorem keys_nodup (c : Config) : (c.members.map (·.1)).Nodup := by
  have h : c.members.map (·.1) = keys := rfl
  rw [h]
  decide +kernel

theorem all_keys (c : Config) : c.members.all (fun m => keys.contains m.1) = true := by
  have h : keys.all keys.contains = true := by decide +kernel
  exact h

/-- The keys are told apart, so each setting is found under its own. -/
theorem ofMembers?_members (c : Config) : ofMembers? c.members = some c := by
  have hfound (key : String) {v : Json} (h : (Units.ofString key, v) ∈ c.members) :
      Json.member? (Units.ofString key) c.members = some v :=
    Json.member?_of_mem c.keys_nodup h
  have hname := hfound "name" (v := c.name) (by simp [members])
  have hwidth := hfound "width" (v := c.width) (by simp [members])
  have hheight := hfound "height" (v := c.height) (by simp [members])
  have hbackground := hfound "background" (v := c.background) (by simp [members])
  have hmarkerSize := hfound "marker_size" (v := c.markerSize) (by simp [members])
  rw [ofMembers?, all_keys, hname, hwidth, hheight, hbackground, hmarkerSize]
  rfl

theorem load_save {c : Config} (h : c.Storable) :
    load (some c.save) = if validSize c.width c.height then c else Preset.default.config := by
  have hread := Json.read?_render Json.indented_blank (.object c.keys_nodup h)
  rw [load, Option.bind_some, ofText?, save, Json.text, String.toList_ofList, hread]
  dsimp only
  rw [ofMembers?_members, Option.filter_some]
  split <;> rfl

def loadFile (files : Files) (path : String) : Config :=
  load ((files.read path).toOption.map fun text => String.ofList (Files.unifyLineEnds text.toList))

theorem loadFile_of_write {c : Config} (h : c.Storable) {files saved : Files} {path : String}
    (hsaved : files.write path c.save = .ok saved) : loadFile saved path = load (some c.save) := by
  have hprintable := (Json.Storable.object c.keys_nodup h).allPrintable 0
  have hreturn : '\r' ∉ c.save.toList := by
    rw [save, Json.text, String.toList_ofList]
    exact fun hmem => absurd (hprintable '\r' hmem) (by decide)
  rw [loadFile, Files.read_of_write hsaved]
  simp [Except.toOption, Files.unifyLineEnds_eq_self hreturn]

theorem storable_ofValues (name background : String) {width height markerSize : Int}
    (h : ∀ n ∈ [width, height, markerSize], (Nat.toDigits 10 n.natAbs).length ≤ 4300) :
    (ofValues name width height background markerSize).Storable := by
  intro m hm
  simp only [members, ofValues, List.mem_cons, List.not_mem_nil, or_false] at hm
  rcases hm with rfl | rfl | rfl | rfl | rfl
  · exact .string _
  · exact .int (h width (by simp))
  · exact .int (h height (by simp))
  · exact .string _
  · exact .int (h markerSize (by simp))

/-- What is saved is loaded again, from its text and from the file that it is written to. -/
theorem saved_is_loaded (name background : String) (width height markerSize : Int)
    (h : ∀ n ∈ [width, height, markerSize], (Nat.toDigits 10 n.natAbs).length ≤ 4300) :
    let c := ofValues name width height background markerSize
    let loaded := if 0 < width ∧ 0 < height then c else Preset.default.config
    load (some c.save) = loaded ∧ ∀ (files saved : Files) (path : String),
      files.write path c.save = .ok saved → loadFile saved path = loaded := by
  intro c loaded
  have hstorable : c.Storable := storable_ofValues name background h
  have hload : load (some c.save) = loaded := by
    rw [load_save hstorable]
    simp [c, loaded, ofValues, validSize, isPositive, Json.whole?]
  exact ⟨hload, fun files saved path hsaved => (loadFile_of_write hstorable hsaved).trans hload⟩

/-- A name with a quote, a backslash, a line end and a character beyond U+FFFF. -/
theorem quoted_name_is_loaded :
    let name := String.ofList ['"', '\\', '\n', Char.ofNat 0x1f600]
    let c := ofValues name 640 480 "#00ff00" (-7)
    let flat := ofValues name 640 0 "#00ff00" (-7)
    let folder : Files := ⟨[("note.json", c.save)]⟩
    (Files.write ⟨[]⟩ "note.json" c.save = .ok folder ∧ loadFile folder "note.json" = c) ∧
      load (some flat.save) = Preset.default.config := by
  intro name c flat folder
  have hname : Files.nameOf? "note.json" = some "note.json" := by decide +kernel
  have hsaved : Files.write ⟨[]⟩ "note.json" c.save = .ok folder := by
    simp [Files.write, hname, folder]
  obtain ⟨-, hfile⟩ := saved_is_loaded name "#00ff00" 640 480 (-7) (by decide)
  obtain ⟨hflat, -⟩ := saved_is_loaded name "#00ff00" 640 0 (-7) (by decide)
  exact ⟨⟨hsaved, hfile ⟨[]⟩ folder "note.json" hsaved⟩, hflat⟩

end Config

end Drawboard

import Inspection.Disk.Basic
import Inspection.Proofs.Outcome

/-!
# Writing files again

A file that could be written at a place can be written there again, whatever text it holds:
replacing a file makes the directories that lead there and leaves them (`makeDirectories_keeps`), so
the second time they are found (`replace_again`).
-/

namespace Inspection.Disk

/-- The directories of one disk are directories of another. -/
def Keeps (d d' : Disk) : Prop :=
  ∀ names, d.at? names = some .directory → d'.at? names = some .directory

/-- What is at the end of some names after a write. -/
lemma at?_insert {d : Disk} {place names : List String} {e : DiskEntry} (some : names ≠ []) :
    at? { d with entries := d.entries.insert (placeOf place) e } names =
      if placeOf names = placeOf place then .some e else d.at? names := by
  have notEmpty : names.isEmpty = false := by simpa using some
  simp [at?, notEmpty]

/-- A new directory leaves all others. -/
lemma keeps_directory (d : Disk) (place : List String) :
    d.Keeps { d with entries := d.entries.insert (placeOf place) .directory } := by
  intro names there
  cases names with
  | nil => rfl
  | cons n rest =>
    rw [at?_insert (by simp)]
    split
    case isTrue => rfl
    case isFalse => exact there

/-- A file in the place of none of them leaves all directories. -/
lemma keeps_file {d : Disk} {place : List String} {text : String}
    (free : d.at? place ≠ some .directory) :
    d.Keeps { d with entries := d.entries.insert (placeOf place) (.file text) } := by
  intro names there
  cases names with
  | nil => rfl
  | cons n rest =>
    rw [at?_insert (by simp)]
    split
    case isFalse => exact there
    case isTrue same =>
      cases place with
      | nil => exact absurd rfl free
      | cons m others =>
        rw [at?, if_neg (by simp), same] at there
        rw [at?, if_neg (by simp)] at free
        exact absurd there free

/-- Making directories leaves those that are there, and where all of them are left it makes none. -/
lemma makeDirectories_keeps {d made : Disk} {here further : List String}
    (h : d.makeDirectories here further = .ok made) :
    d.Keeps made ∧ made.workingDirectory = d.workingDirectory ∧
      ∀ d' : Disk, made.Keeps d' → d'.makeDirectories here further = .ok d' := by
  induction d, here, further using makeDirectories.induct with
  | case1 d here =>
    rw [makeDirectories] at h
    cases h
    refine ⟨fun _ there => there, rfl, fun d' _ => ?_⟩
    rw [makeDirectories]
  | case2 d here rest ih =>
    rw [makeDirectories] at h
    obtain ⟨keeps, base, again⟩ := ih h
    refine ⟨keeps, base, fun d' left => ?_⟩
    rw [makeDirectories]
    exact again d' left
  | case3 d here n rest other long =>
    rw [makeDirectories, if_pos long] at h
    · cases h
    · exact other
  | case4 d here n rest other names short there ih =>
    rw [makeDirectories, if_neg short, there] at h
    · obtain ⟨keeps, base, again⟩ := ih h
      refine ⟨keeps, base, fun d' left => ?_⟩
      rw [makeDirectories, if_neg short, left _ (keeps _ there)]
      · exact again d' left
      · exact other
    · exact other
  | case5 d here n rest other names short text there =>
    rw [makeDirectories, if_neg short, there] at h
    · cases h
    · exact other
  | case6 d here n rest other names short there ih =>
    rw [makeDirectories, if_neg short, there] at h
    · obtain ⟨keeps, base, again⟩ := ih h
      refine ⟨fun names old => keeps _ (keeps_directory d _ names old), base, fun d' left => ?_⟩
      have made : d'.at? (here ++ [n]) = some .directory := by
        refine left _ (keeps _ ?_)
        rw [at?_insert (by simp), if_pos rfl]
      rw [makeDirectories, if_neg short, made]
      · exact again d' left
      · exact other
    · exact other

/-- Where all directories are left, names lead to the same place. -/
lemma follow_keeps {d d' : Disk} (keeps : d.Keeps d') {here further names : List String}
    (h : d.follow here further = .ok names) : d'.follow here further = .ok names := by
  induction here, further using follow.induct d with
  | case1 here => rwa [follow] at h ⊢
  | case2 here rest ih =>
    rw [follow] at h ⊢
    exact ih h
  | case3 here n rest other long =>
    rw [follow, if_pos long] at h
    · cases h
    · exact other
  | case4 here n rest other short last =>
    rw [follow, if_neg short, if_pos last] at h ⊢
    · exact h
    · exact other
    · exact other
  | case5 here n rest other short more there ih =>
    rw [follow, if_neg short, if_neg more, there] at h
    · rw [follow, if_neg short, if_neg more, keeps _ there]
      · exact ih h
      · exact other
    · exact other
  | case6 here n rest other short more text there =>
    rw [follow, if_neg short, if_neg more, there] at h
    · cases h
    · exact other
  | case7 here n rest other short more there =>
    rw [follow, if_neg short, if_neg more, there] at h
    · cases h
    · exact other

/-- When a file can be written in one step, and what is then on the disk. -/
lemma replace_eq_ok {d d' : Disk} {p : Path} {text : String} :
    d.replace p text = .ok d' ↔ ∃ made names, d.ensureDirectory p.parent = .ok made ∧
      made.locate p = .ok names ∧
      (maxNameSize < p.name.utf8ByteSize + draftMark || p.name = "" || p.name = "..") = false ∧
      made.at? names ≠ some .directory ∧
      d' = { made with entries := made.entries.insert (placeOf names) (.file text) } := by
  rw [replace, bind_eq_ok]
  constructor
  · rintro ⟨made, ensured, h⟩
    obtain ⟨names, located, h⟩ := bind_eq_ok.1 h
    split at h
    case isTrue => cases h
    case isFalse fits =>
      rw [write, located, ok_bind] at h
      refine ⟨made, names, ensured, located, by simpa using fits, ?_⟩
      split at h
      case h_1 => cases h
      case h_2 free => exact ⟨free, (pure_eq_ok.1 h).symm⟩
  · rintro ⟨made, names, ensured, located, fits, free, rfl⟩
    refine ⟨made, ensured, bind_eq_ok.2 ⟨names, located, ?_⟩⟩
    rw [if_neg (by simpa using fits), write, located, ok_bind]
    split
    case h_1 there => exact absurd there free
    case h_2 => rfl

/-- Whether a file can be written does not depend on its text. -/
lemma replace_text {d d' : Disk} {p : Path} {text : String} (h : d.replace p text = .ok d')
    (text' : String) : ∃ d'', d.replace p text' = .ok d'' := by
  obtain ⟨made, names, ensured, located, fits, free, -⟩ := replace_eq_ok.1 h
  exact ⟨_, replace_eq_ok.2 ⟨made, names, ensured, located, fits, free, rfl⟩⟩

/-- A file that was written can be written again. -/
lemma replace_again {d d' : Disk} {p : Path} {text : String} (h : d.replace p text = .ok d')
    (text' : String) : ∃ d'', d'.replace p text' = .ok d'' := by
  obtain ⟨made, names, ensured, located, fits, free, rfl⟩ := replace_eq_ok.1 h
  have left := @keeps_file _ _ text free
  obtain ⟨parents, hp, e⟩ := bind_eq_ok.1 ensured
  obtain ⟨-, base, again⟩ := makeDirectories_keeps e
  obtain ⟨further, hf, e⟩ := bind_eq_ok.1 located
  refine ⟨_, replace_eq_ok.2
    ⟨{ made with entries := made.entries.insert (placeOf names) (.file text) }, names, ?_, ?_,
      fits, ?_, rfl⟩⟩
  · refine bind_eq_ok.2 ⟨parents, ?_, again _ left⟩
    rw [← hp, Disk.names, Disk.names, base]
  · exact bind_eq_ok.2 ⟨further, hf, follow_keeps left e⟩
  · cases names with
    | nil => exact absurd rfl free
    | cons n rest =>
      rw [at?_insert (by simp), if_pos rfl]
      exact nofun

end Inspection.Disk

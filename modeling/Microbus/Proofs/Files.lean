import Mathlib.Data.List.Basic
import Microbus.Files

/-! # Files are read back

A path that does not leave the folder leads to the same place before and behind a write. So what is
written there is read back, whatever was in the folder.
-/

namespace Microbus.Folder
set_option autoImplicit false

/-- The path does not lead out of the folder. -/
def Inside (name : String) : Prop :=
  ∃ path, FilePath.ofText name = .ok path ∧ path.fromRoot = false ∧ ".." ∉ path.names

variable {f g : Folder} {name content : String} {names : List String}

theorem follow_home {next : Spot} (h : f.follow .home name = .ok next) (hUp : name ≠ "..") :
    name = "." ∧ next = .home ∨ ∃ text, next = .file text := by
  simp only [follow] at h
  by_cases hHere : name = "."
  · rw [if_pos hHere] at h
    cases h
    exact .inl ⟨hHere, rfl⟩
  · rw [if_neg hHere, if_neg hUp] at h
    split at h
    · cases h
    · split at h
      · cases h
        exact .inr ⟨_, rfl⟩
      · cases h

theorem followAll_file {text : String} {spot : Spot}
    (h : f.followAll (.file text) names = .ok spot) : spot = .file text := by
  cases names with
  | nil =>
      cases h
      rfl
  | cons n ns => cases h

theorem followAll_home (hUp : ".." ∉ names) (g : Folder) {spot : Spot}
    (h : f.followAll .home names = .ok spot) :
    (∃ text, spot = .file text) ∨ spot = .home ∧ g.followAll .home names = .ok .home := by
  induction names with
  | nil =>
      cases h
      exact .inr ⟨rfl, rfl⟩
  | cons n ns ih =>
      obtain ⟨hn, hns⟩ := not_or.mp (mt List.mem_cons.mpr hUp)
      simp only [followAll] at h
      cases hNext : f.follow .home n with
      | error e =>
          rw [hNext] at h
          cases h
      | ok next =>
          rw [hNext] at h
          rcases follow_home hNext (Ne.symm hn) with ⟨rfl, rfl⟩ | ⟨text, rfl⟩
          · simpa [followAll, follow] using ih hns h
          · exact .inl ⟨text, followAll_file h⟩

theorem followAll_append (spot : Spot) (ns : List String) :
    f.followAll spot (names ++ ns) = (f.followAll spot names).bind (f.followAll · ns) := by
  induction names generalizing spot with
  | nil => rfl
  | cons n names ih =>
      simp only [List.cons_append, followAll]
      cases f.follow spot n with
      | error e => rfl
      | ok next => exact ih next

/-- What a write that stays inside the folder has found. -/
structure Lands (path : FilePath) (last content : String) (f g : Folder) : Prop where
  names : path.names = path.names.dropLast ++ [last]
  isFile : path.asksFolder = false
  plain : last ≠ "." ∧ last ≠ ".."
  size : ¬ FilePath.maxNameSize < last.utf8ByteSize
  stays : g.followAll .home path.names.dropLast = .ok .home
  files : g.files = (last, content) :: f.files.filter fun file => file.1 != last

theorem lands_of_write {path : FilePath} (hPath : FilePath.ofText name = .ok path)
    (hRoot : path.fromRoot = false) (hUp : ".." ∉ path.names) (h : f.write name content = .ok g) :
    ∃ last, Lands path last content f g := by
  have hStart : startOf path = .home := by simp [startOf, hRoot]
  have hUpBefore : ".." ∉ path.names.dropLast := fun hMem => hUp (List.dropLast_subset _ hMem)
  simp only [write, hPath, hStart, bind, Except.bind] at h
  cases hFollow : f.followAll .home path.names.dropLast with
  | error e =>
      rw [hFollow] at h
      cases h
  | ok spot =>
      rw [hFollow] at h
      rcases followAll_home hUpBefore g hFollow with ⟨text, rfl⟩ | ⟨rfl, hAgain⟩
      · cases h
      · cases hLast : path.names.getLast? with
        | none =>
            rw [hLast] at h
            cases h
        | some last =>
            simp only [hLast] at h
            split at h
            · cases h
            · next hPlain =>
                split at h
                · cases h
                · next hSize =>
                    cases h
                    obtain ⟨hFile, hNames⟩ : path.asksFolder = false ∧ last ≠ "." ∧ last ≠ ".." := by
                      simpa using hPlain
                    exact ⟨last, (List.dropLast_append_getLast? last hLast).symm, hFile, hNames, hSize,
                      hAgain, rfl⟩

theorem read_of_write (hInside : Inside name) (h : f.write name content = .ok g) :
    g.read name = .ok content := by
  obtain ⟨path, hPath, hRoot, hUp⟩ := hInside
  obtain ⟨last, hLands⟩ := lands_of_write hPath hRoot hUp h
  have hStart : startOf path = .home := by simp [startOf, hRoot]
  have hFound : g.followAll .home path.names = .ok (.file content) := by
    rw [hLands.names, followAll_append, hLands.stays]
    simp [Except.bind, followAll, follow, hLands.plain, hLands.size, find?, hLands.files]
  simp [read, hPath, hStart, hFound, hLands.isFile, bind, Except.bind]

end Microbus.Folder

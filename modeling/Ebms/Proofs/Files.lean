import Ebms.Files

/-! # A replaced file is read as what was written

A file is replaced by way of a temporary file beside it.  When that succeeds, the path names
a file afterwards, and its contents are the new ones. -/

set_option autoImplicit false

namespace Ebms.Files

theorem folderPath_eq {path : String} (noSlash : Text.endsWith path "/" = false) :
    folderPath path = path := by
  have kept : Text.dropEndWhile (· == '/') path.toList = path.toList := by
    rw [Text.dropEndWhile]
    rw [Text.endsWith] at noSlash
    cases reversed : path.toList.reverse with
    | nil => rw [List.reverse_eq_nil_iff.mp reversed]; rfl
    | cons last before =>
        have different : ¬ (last == '/') = true := by
          intro slash
          rw [reversed, eq_of_beq slash] at noSlash
          exact Bool.false_ne_true (noSlash.symm.trans rfl)
        rw [List.dropWhile_cons, if_neg different, ← reversed, List.reverse_reverse]
  rw [folderPath, kept, String.ofList_toList]

theorem not_startsWith_append (path : String) : Text.startsWith path (path ++ "/") = false := by
  rw [Text.startsWith, Bool.eq_false_iff]
  intro longer
  have length := (List.isPrefixOf_iff_prefix.mp longer).length_le
  have one : "/".toList.length = 1 := rfl
  rw [String.toList_append, List.length_append, one] at length
  omega

theorem isFolder_eq_false {files changed : Files} {path : String}
    (noSlash : Text.endsWith path "/" = false) (noFolder : files.isFolder path = false)
    (root : changed.root = files.root)
    (entries : ∀ entry ∈ changed.entries, entry.1 = path ∨ entry ∈ files.entries) :
    changed.isFolder path = false := by
  simp only [isFolder, folderPath_eq noSlash, root, Bool.and_eq_false_iff, Bool.or_eq_false_iff]
    at noFolder ⊢
  refine noFolder.imp_right fun ⟨named, below⟩ => ⟨named, ?_⟩
  rw [List.any_eq_false] at below ⊢
  intro entry member
  rcases entries entry member with same | old
  · rw [same, not_startsWith_append]
    exact Bool.false_ne_true
  · exact below entry old

@[simp] theorem root_erase (files : Files) (path : String) :
    (files.erase path).root = files.root := rfl

@[simp] theorem root_write (files : Files) (path : String) (data : Bytes) :
    (files.write path data).root = files.root := rfl

theorem mem_erase_write {files : Files} {path : String} {data : Bytes} {entry : String × Bytes}
    (member : entry ∈ ((files.write path data).erase path).entries) : entry ∈ files.entries := by
  simp only [erase, write, List.filter_cons, bne_self_eq_false, Bool.false_eq_true, if_false,
    List.mem_filter] at member
  exact member.1.1

theorem rename_write (files : Files) (source target : String) (data : Bytes) :
    (files.write source data).rename source target =
      ((files.write source data).erase source).write target data := by
  have found : (files.write source data).entries.lookup source = some data := by
    simp [write]
  rw [rename, found]

theorem read_replace {files changed : Files} {path : String} {data : Bytes}
    (success : files.replace path data = .ok changed) : changed.read path = .ok data := by
  unfold replace at success
  split at success
  case isTrue => cases success
  split at success
  case isTrue => cases success
  split at success
  case isTrue => cases success
  case isFalse refused =>
    simp only [Bool.or_eq_true, not_or, Bool.not_eq_true] at refused
    obtain ⟨⟨noSlash, noFolder⟩, -⟩ := refused
    generalize temporaryPath path = temporary at success
    rw [rename_write] at success
    obtain rfl := Except.ok.inj success
    have root : (((files.write temporary data).erase temporary).write path data).root =
        files.root := by
      rw [root_write, root_erase, root_write]
    -- No entry lies below the path, be it old or the one written last.
    have stillNone := isFolder_eq_false noSlash noFolder root fun entry member => by
      rcases List.mem_cons.mp member with rfl | other
      · exact .inl rfl
      · exact .inr (mem_erase_write (List.mem_filter.mp other).1)
    rw [read, stillNone, write]
    simp

end Ebms.Files

import DualityDice.Directory
import DualityDice.Proofs.Text.Lines

namespace DualityDice

theorem Text.splitAll_append_mark (mark : Char) (text rest : Text) :
    (text ++ mark :: rest).splitAll mark = text.splitAll mark ++ rest.splitAll mark := by
  induction text with
  | nil => simp [splitAll]
  | cons c text ih =>
      obtain ⟨part, parts, hparts⟩ : ∃ part parts, splitAll mark text = part :: parts := by
        rw [splitAll_eq_splitOn]
        exact List.exists_cons_of_ne_nil (List.splitOn_ne_nil mark text)
      rw [hparts] at ih
      rw [List.cons_append, splitAll, splitAll, ih, hparts]
      split <;> rfl

theorem Text.byteCount_append (text rest : Text) :
    byteCount (text ++ rest) = byteCount text + byteCount rest := by
  induction text with
  | nil => simp [byteCount]
  | cons c text ih => rw [List.cons_append, byteCount, byteCount, ih, Nat.add_assoc]

namespace Files

section FullPath

variable (place : List Text) (path : Text)

theorem foldl_append (before after : Text) :
    place.foldl (fun path name => '/' :: name ++ path) (before ++ after) =
      place.foldl (fun path name => '/' :: name ++ path) before ++ after := by
  induction place generalizing before with
  | nil => rfl
  | cons name place ih =>
      rw [List.foldl_cons, ← List.append_assoc, ih]
      rfl

theorem fullPath_eq_append : fullPath place path = fullPath place [] ++ path :=
  foldl_append place ['/'] path

theorem fullPath_eq_append_mark :
    fullPath place path =
      place.foldl (fun path name => '/' :: name ++ path) [] ++ '/' :: path :=
  foldl_append place [] ('/' :: path)

theorem isFull_fullPath : isFull (fullPath place path) = true := by
  rcases List.eq_nil_or_concat place with rfl | ⟨outer, name, rfl⟩
  · rfl
  · rw [fullPath, List.concat_eq_append, List.foldl_append]
    rfl

end FullPath

theorem exists_attempts_eq_cons (place : List Text) {path : Text} (h : isFull path = false) :
    ∃ others, attempts place path = fullPath place path :: others := by
  rw [attempts, h]
  cases place with
  | nil => exact ⟨[], rfl⟩
  | cons name outer => exact ⟨outwards path outer, rfl⟩

end Files

namespace Directory

open Files

variable {directory : Directory} {path : Text}

theorem endsInDirectory_fullPath (place : List Text) :
    endsInDirectory (fullPath place path) = endsInDirectory path := by
  have hne : path.splitAll '/' ≠ [] := by
    rw [Text.splitAll_eq_splitOn]
    exact List.splitOn_ne_nil '/' path
  unfold endsInDirectory
  rw [fullPath_eq_append_mark, Text.splitAll_append_mark, List.getLast?_append,
    List.getLast?_eq_some_getLast hne]
  rfl

theorem within?_fullPath (h : isFull path = false) :
    directory.within? (fullPath directory.place path) = directory.within? path := by
  rw [within?, within?, if_pos (isFull_fullPath _ _), h, fullPath_eq_append,
    Text.dropStart?_append]
  rfl

theorem contents?_fullPath (h : isFull path = false)
    (hshort : Text.byteCount (fullPath directory.place path) < pathLimit) :
    directory.contents? (fullPath directory.place path) = directory.contents? path := by
  have hpath : Text.byteCount path < pathLimit := by
    rw [fullPath_eq_append, Text.byteCount_append] at hshort
    omega
  unfold contents?
  rw [endsInDirectory_fullPath, within?_fullPath h]
  simp only [Nat.not_le.mpr hshort, Nat.not_le.mpr hpath, or_false]

theorem find?_toFiles_of_contents? {contents : Bytes}
    (hcontents : directory.contents? path = some contents)
    (hshort : isFull path = true ∨
      Text.byteCount (fullPath directory.place path) < pathLimit) :
    directory.toFiles.find? path = some contents := by
  cases hfull : isFull path with
  | true =>
      rw [find?, attempts, if_pos hfull]
      change [path].findSome? directory.contents? = _
      rw [List.findSome?_cons, hcontents]
  | false =>
      obtain ⟨others, hothers⟩ := exists_attempts_eq_cons directory.place hfull
      have hpath := contents?_fullPath hfull (hshort.resolve_left (by simp [hfull]))
      rw [find?]
      change (attempts directory.place path).findSome? directory.contents? = _
      rw [hothers, List.findSome?_cons, hpath, hcontents]

end Directory

end DualityDice

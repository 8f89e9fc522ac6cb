import DocsConsole.Session.Basic
import Mathlib.Data.List.Induction

/-!
# Merging files into the uploads

Files are merged one after another into a list that grows meanwhile.  What is appended can
be told from the batch alone: the files whose name is neither in the list nor that of an
earlier file of the batch.  The names of a batch are all there afterwards, so to merge it
again appends nothing.
-/

namespace DocsConsole.Session

def names (files : List UploadedFile) : List String :=
  files.map (·.name)

/-- The files of a batch whose name is new: no upload and no earlier file of the batch
carries it. -/
def newcomers (uploads batch : List UploadedFile) : List UploadedFile :=
  (batch.zipIdx.filter fun (file, place) =>
    file.name ∉ names (uploads ++ batch.take place)).map (·.1)

section

variable {uploads : List UploadedFile} {file : UploadedFile}

theorem any_name_iff :
    uploads.any (·.name = file.name) = true ↔ file.name ∈ names uploads := by
  simp [names]

theorem mergeUploads_cons_of_mem (known : file.name ∈ names uploads)
    (files : List UploadedFile) :
    mergeUploads uploads (file :: files) = mergeUploads uploads files := by
  rw [mergeUploads, if_pos (any_name_iff.mpr known)]

theorem mergeUploads_cons_of_not_mem (new : file.name ∉ names uploads)
    (files : List UploadedFile) :
    mergeUploads uploads (file :: files) = mergeUploads (uploads ++ [file]) files := by
  have unknown : ¬uploads.any (·.name = file.name) = true := by
    rw [any_name_iff]
    exact new
  rw [mergeUploads, if_neg unknown]

end

variable (uploads : List UploadedFile)

theorem mergeUploads_append (first second : List UploadedFile) :
    mergeUploads uploads (first ++ second) = mergeUploads (mergeUploads uploads first) second := by
  induction first generalizing uploads with
  | nil => rfl
  | cons file first induction =>
      rw [List.cons_append]
      by_cases known : file.name ∈ names uploads
      · rw [mergeUploads_cons_of_mem known, mergeUploads_cons_of_mem known, induction]
      · rw [mergeUploads_cons_of_not_mem known, mergeUploads_cons_of_not_mem known, induction]

/-- Merging adds the names of the batch, and no others. -/
theorem mem_names_mergeUploads (files : List UploadedFile) (name : String) :
    name ∈ names (mergeUploads uploads files) ↔ name ∈ names uploads ∨ name ∈ names files := by
  induction files generalizing uploads with
  | nil => simp [mergeUploads, names]
  | cons file files induction =>
      by_cases known : file.name ∈ names uploads
      · rw [mergeUploads_cons_of_mem known, induction]
        constructor
        · rintro (before | member)
          · exact Or.inl before
          · exact Or.inr (List.mem_cons_of_mem _ member)
        · rintro (before | member)
          · exact Or.inl before
          · rcases List.mem_cons.mp member with rfl | member
            · exact Or.inl known
            · exact Or.inr member
      · rw [mergeUploads_cons_of_not_mem known, induction]
        simp [names, or_assoc]

variable {uploads} in
theorem mergeUploads_of_known {files : List UploadedFile}
    (known : ∀ file ∈ files, file.name ∈ names uploads) :
    mergeUploads uploads files = uploads := by
  induction files with
  | nil => rfl
  | cons file files induction =>
      rw [mergeUploads_cons_of_mem (known file List.mem_cons_self)]
      apply induction
      intro other member
      exact known other (List.mem_cons_of_mem file member)

theorem mergeUploads_again (files : List UploadedFile) :
    mergeUploads (mergeUploads uploads files) files = mergeUploads uploads files := by
  apply mergeUploads_of_known
  intro file member
  rw [mem_names_mergeUploads]
  exact Or.inr (List.mem_map_of_mem member)

/-- Whether the last file of a batch is new depends on all others; it makes no difference to
them. -/
theorem newcomers_concat (batch : List UploadedFile) (file : UploadedFile) :
    newcomers uploads (batch ++ [file]) =
      newcomers uploads batch ++ if file.name ∈ names (uploads ++ batch) then [] else [file] := by
  have others : (batch.zipIdx.filter fun (other, place) =>
        other.name ∉ names (uploads ++ (batch ++ [file]).take place)) =
      batch.zipIdx.filter fun (other, place) =>
        other.name ∉ names (uploads ++ batch.take place) := by
    apply List.filter_congr
    rintro ⟨other, place⟩ member
    have inside : place ≤ batch.length := Nat.le_of_lt (List.snd_lt_of_mem_zipIdx member)
    simp only [List.take_append_of_le_length inside]
  have all : (batch ++ [file]).take batch.length = batch := List.take_left
  unfold newcomers
  rw [List.zipIdx_append, List.filter_append, List.map_append, others]
  congr 1
  rw [Nat.zero_add, List.zipIdx_singleton]
  by_cases known : file.name ∈ names (uploads ++ batch)
  · rw [if_pos known, List.filter_cons_of_neg (by simpa [all] using known)]
    rfl
  · rw [if_neg known, List.filter_cons_of_pos (by simpa [all] using known)]
    rfl

/-- To merge a batch is to append its newcomers. -/
theorem mergeUploads_eq_append (files : List UploadedFile) :
    mergeUploads uploads files = uploads ++ newcomers uploads files := by
  induction files using List.reverseRecOn with
  | nil => exact (List.append_nil uploads).symm
  | append_singleton files file induction =>
      have same : file.name ∈ names (mergeUploads uploads files) ↔
          file.name ∈ names (uploads ++ files) := by
        rw [mem_names_mergeUploads]
        simp [names]
      rw [mergeUploads_append, newcomers_concat, ← List.append_assoc, ← induction]
      by_cases known : file.name ∈ names (mergeUploads uploads files)
      · rw [mergeUploads_cons_of_mem known, if_pos (same.mp known), List.append_nil]
        rfl
      · rw [mergeUploads_cons_of_not_mem known, if_neg (mt same.mpr known)]
        rfl

end DocsConsole.Session

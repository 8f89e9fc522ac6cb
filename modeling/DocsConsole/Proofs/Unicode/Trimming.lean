import DocsConsole.Session.Request
import Mathlib.Data.List.DropRight

/-!
# What is left of a text without its ends

Dropping the members of a class from the end of a text parts the text: what is dropped belongs to
the class, and what is left does not end in it.  So trimming parts a text in three, and what is
left in the middle has no white space at either end.
-/

namespace DocsConsole

namespace Unicode

theorem exists_dropEndWhile (belongs : Char → Bool) (cs : List Char) :
    ∃ ending, cs = dropEndWhile belongs cs ++ ending ∧ (∀ c ∈ ending, belongs c = true) ∧
      ∀ c, (dropEndWhile belongs cs).getLast? = some c → belongs c = false := by
  refine ⟨(cs.reverse.takeWhile belongs).reverse, ?_, ?_, ?_⟩
  · rw [dropEndWhile, ← List.reverse_append, List.takeWhile_append_dropWhile,
      List.reverse_reverse]
  · intro c member
    exact List.mem_takeWhile_imp (List.mem_reverse.mp member)
  · intro c last
    have unlike := List.head?_dropWhile_not belongs cs.reverse
    rw [dropEndWhile, List.getLast?_reverse] at last
    exact Bool.eq_false_iff.mpr (by simpa [last] using unlike)

/-- The core of a text is what is left without the white space at either end. -/
structure Trims (text core : String) : Prop where
  parts : ∃ lead trail, text.toList = lead ++ core.toList ++ trail ∧
    (∀ c ∈ lead, isSpace c = true) ∧ ∀ c ∈ trail, isSpace c = true
  first : ∀ c ∈ core.toList.head?, isSpace c = false
  last : ∀ c ∈ core.toList.getLast?, isSpace c = false

theorem trims_trim (text : String) : Trims text (trim text) := by
  let rest := text.toList.dropWhile isSpace
  have core : (trim text).toList = dropEndWhile isSpace rest := String.toList_ofList
  obtain ⟨trail, whole, spaces, ends⟩ := exists_dropEndWhile isSpace rest
  constructor
  · refine ⟨text.toList.takeWhile isSpace, trail, ?_, fun c => List.mem_takeWhile_imp, spaces⟩
    rw [core, List.append_assoc, ← whole, List.takeWhile_append_dropWhile]
  · intro c begins
    have atRest : rest.head? = some c := by
      rw [core] at begins
      rw [whole, List.head?_append, Option.mem_def.mp begins, Option.some_or]
    have unlike := List.head?_dropWhile_not isSpace text.toList
    simpa [rest, atRest] using unlike
  · rw [core]
    exact ends

theorem trimChars_eq_nil_iff (cs : List Char) :
    trimChars cs = [] ↔ ∀ c ∈ cs, isSpace c = true := by
  obtain ⟨trail, whole, spaces, _⟩ := exists_dropEndWhile isSpace (cs.dropWhile isSpace)
  change cs.dropWhile isSpace = trimChars cs ++ trail at whole
  constructor
  · intro nothing
    rw [nothing, List.nil_append] at whole
    have blank : cs.dropWhile isSpace = [] := by
      rw [← List.dropWhile_idempotent, whole]
      exact List.dropWhile_eq_nil_iff.mpr spaces
    exact List.dropWhile_eq_nil_iff.mp blank
  · intro allSpace
    rw [List.dropWhile_eq_nil_iff.mpr allSpace] at whole
    exact (List.append_eq_nil_iff.mp whole.symm).left

end Unicode

/-- A blank text is one of white space only. -/
theorem isBlank_eq_all (text : String) : isBlank text = text.toList.all Unicode.isSpace := by
  rw [Bool.eq_iff_iff, List.all_eq_true, ← Unicode.trimChars_eq_nil_iff]
  simp [isBlank, Unicode.trim]

end DocsConsole

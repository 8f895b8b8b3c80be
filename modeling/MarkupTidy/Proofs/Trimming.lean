import Mathlib.Data.List.DropRight
import Mathlib.Data.List.Infix
import MarkupTidy.Text.Blank

/-!
# Proofs/Trimming — trimmed texts

A text is *trimmed* when it neither starts nor ends with a blank (`Trimmed`). Trimming cuts blanks
off the two ends only:

* `trimmed_trim` — it gives a trimmed text;
* `trim_eq_self_iff` — it leaves exactly the trimmed texts as they are;
* `trim_isInfix` — what it keeps is a piece of the text.
-/

namespace MarkupTidy.Text

/-- Trimming drops the leading blanks, then the trailing ones. -/
theorem trim_eq_rdropWhile (cs : List Char) :
    trim cs = (cs.dropWhile isBlank).rdropWhile isBlank := rfl

/-- A text that neither starts nor ends with a blank. -/
def Trimmed (cs : List Char) : Prop :=
  (∀ c ∈ cs.head?, isBlank c = false) ∧ ∀ c ∈ cs.getLast?, isBlank c = false

theorem trimmed_nil : Trimmed [] := ⟨by simp, by simp⟩

/-- **Trimming gives a trimmed text**: what is kept starts where the leading blanks stop, and the
trailing blanks are cut back to a character that is no blank. -/
theorem trimmed_trim (cs : List Char) : Trimmed (trim cs) := by
  rw [trim_eq_rdropWhile]
  refine ⟨fun c hc => ?_, fun c hc => ?_⟩
  · have hne := List.ne_nil_of_mem (List.mem_of_mem_head? hc)
    rw [← List.head_of_mem_head? hc, (List.rdropWhile_prefix isBlank _).head hne]
    exact List.head_dropWhile_not isBlank _
  · rw [← List.getLast_of_mem_getLast? hc]
    simpa using List.rdropWhile_last_not _ _ _

/-- **Trimming leaves exactly the trimmed texts as they are.** -/
theorem trim_eq_self_iff {cs : List Char} : trim cs = cs ↔ Trimmed cs := by
  refine ⟨fun h => h ▸ trimmed_trim cs, fun ⟨hhead, hlast⟩ => ?_⟩
  have hdrop : cs.dropWhile isBlank = cs := by
    cases cs with
    | nil => rfl
    | cons c rest => exact List.dropWhile_cons_of_neg (by simpa using hhead c rfl)
  rw [trim_eq_rdropWhile, hdrop, List.rdropWhile_eq_self_iff]
  intro hne
  simpa using hlast _ (List.getLast_mem_getLast? hne)

@[simp] theorem trim_trim (cs : List Char) : trim (trim cs) = trim cs :=
  trim_eq_self_iff.2 (trimmed_trim cs)

/-- What trimming keeps is a piece of the text. -/
theorem trim_isInfix (cs : List Char) : trim cs <:+: cs :=
  (List.rdropWhile_prefix isBlank _).isInfix.trans (List.dropWhile_suffix isBlank).isInfix

/-- A character that is no blank, put before a trimmed text that is not empty, keeps it trimmed. -/
theorem Trimmed.cons {cs : List Char} (h : Trimmed cs) (hne : cs ≠ []) {c : Char}
    (hc : isBlank c = false) : Trimmed (c :: cs) := by
  obtain ⟨d, ds, rfl⟩ := List.exists_cons_of_ne_nil hne
  exact ⟨by simpa using hc, fun x hx => h.2 x (by rwa [List.getLast?_cons_cons] at hx)⟩

/-- …and so does one put after it. -/
theorem Trimmed.concat {cs : List Char} (h : Trimmed cs) (hne : cs ≠ []) {c : Char}
    (hc : isBlank c = false) : Trimmed (cs ++ [c]) := by
  refine ⟨fun x hx => h.1 x ?_, by simpa using hc⟩
  rwa [List.head?_append_of_ne_nil _ hne] at hx

end MarkupTidy.Text

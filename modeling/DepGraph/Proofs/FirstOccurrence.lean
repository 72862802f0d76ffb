import Mathlib.Data.List.Induction

/-!
# First occurrences

`List.eraseDups` keeps the first occurrence of every member of a list. What later modules need of it
is that the members come in the **order of their first occurrences**
(`DepGraph.pairwise_idxOf_eraseDups`), which together with the members determines the list.
-/

namespace DepGraph

variable {α : Type} [BEq α] [LawfulBEq α]

/-- A new last member is kept exactly if it did not occur before. -/
theorem eraseDups_concat (as : List α) (a : α) :
    (as ++ [a]).eraseDups = if as.elem a then as.eraseDups else as.eraseDups ++ [a] := by
  rw [List.eraseDups_append]
  by_cases h : a ∈ as
  · simp [List.removeAll, h]
  · simp [List.removeAll, h, List.eraseDups_cons]

/-- A list in which nothing occurs twice is kept as it is. -/
theorem eraseDups_eq_self {as : List α} (h : as.Nodup) : as.eraseDups = as := by
  induction as using List.reverseRecOn with
  | nil => rfl
  | append_singleton as a ih =>
    obtain ⟨kept, -, apart⟩ := List.nodup_append.mp h
    have fresh : a ∉ as := fun ha => apart a ha a (by simp) rfl
    rw [eraseDups_concat, ih kept, if_neg (by simpa using fresh)]

/-- **The order of first occurrences**: what is kept earlier occurred earlier. -/
theorem pairwise_idxOf_eraseDups (as : List α) :
    as.eraseDups.Pairwise fun a b => as.idxOf a < as.idxOf b := by
  induction as using List.reverseRecOn with
  | nil => simp
  | append_singleton as a ih =>
    have before : ∀ b ∈ as.eraseDups, (as ++ [a]).idxOf b = as.idxOf b := fun b hb => by
      rw [List.idxOf_append, if_pos (List.mem_eraseDups.mp hb)]
    have kept : as.eraseDups.Pairwise fun b c => (as ++ [a]).idxOf b < (as ++ [a]).idxOf c :=
      ih.imp_of_mem fun hb hc h => by rwa [before _ hb, before _ hc]
    rw [eraseDups_concat]
    split
    · exact kept
    · rename_i new
      refine List.pairwise_append.mpr ⟨kept, List.pairwise_singleton _ _, fun b hb c hc => ?_⟩
      obtain rfl := List.mem_singleton.mp hc
      have fresh : c ∉ as := by simpa using new
      rw [before b hb, List.idxOf_append, if_neg fresh, List.idxOf_cons_self]
      have := List.idxOf_lt_length_of_mem (List.mem_eraseDups.mp hb)
      omega

/-- Nothing is kept twice. -/
theorem nodup_eraseDups (as : List α) : as.eraseDups.Nodup :=
  (pairwise_idxOf_eraseDups as).imp fun h hab => by simp [hab] at h

end DepGraph

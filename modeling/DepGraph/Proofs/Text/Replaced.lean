import DepGraph.Text.Replace

/-!
# What replacing parts of a text comes to

Replacing goes from left to right and looks at a text in front of what was already replaced. Told as
a relation (`DepGraph.Text.Replaced`) it takes a step for each part and one for each item that
stays, so that what is kept through it is shown by an induction with these two steps. If a finder
finds just the parts of a kind (`DepGraph.Text.Finds`), the relation and the function agree
(`DepGraph.Text.replaced_iff`).
-/

namespace DepGraph.Text

variable {α : Type}

/-- A **kind of part**: what is replaced, by what, and in front of what. -/
abbrev PartKind (α : Type) := List α → List α → List α → Prop

/-- A list **starts** with a part of a kind. -/
def StartsPart (kind : PartKind α) (as : List α) : Prop :=
  ∃ old new rest, kind old new rest ∧ as = old ++ rest

/-- The parts of a kind are **replaced**, from left to right. -/
inductive Replaced (kind : PartKind α) : List α → List α → Prop
  /-- There is nothing to replace in an empty list. -/
  | nil : Replaced kind [] []
  /-- A part is replaced as a whole. -/
  | part {old new rest rest' : List α} (found : kind old new rest)
    (after : Replaced kind rest rest') : Replaced kind (old ++ rest) (new ++ rest')
  /-- An item that no part starts with stays. -/
  | other {a : α} {as as' : List α} (apart : ¬StartsPart kind (a :: as))
    (after : Replaced kind as as') : Replaced kind (a :: as) (a :: as')

/-- A finder **finds** the parts of a kind. -/
structure Finds (find : Finder α) (kind : PartKind α) : Prop where
  /-- There is something in a part. -/
  ne_nil : ∀ {old new rest}, kind old new rest → old ≠ []
  /-- A part is found as a whole. -/
  found : ∀ {old new rest}, kind old new rest → find (old ++ rest) = some (new, old.length - 1)
  /-- Nothing else is found. -/
  missed : ∀ {as}, ¬StartsPart kind as → find as = none

/-- Lists are split alike by the first item that does not have a property. -/
theorem eq_of_append_cons {P : α → Prop} {front front' rest rest' : List α} {a a' : α}
    (inner : ∀ b ∈ front, P b) (inner' : ∀ b ∈ front', P b) (ends : ¬P a) (ends' : ¬P a')
    (same : front ++ a :: rest = front' ++ a' :: rest') :
    front = front' ∧ a = a' ∧ rest = rest' := by
  induction front generalizing front' with
  | nil =>
    cases front' with
    | nil => simpa using same
    | cons b front' =>
      obtain ⟨rfl, -⟩ := List.cons.inj same
      exact absurd (inner' a List.mem_cons_self) ends
  | cons b front ih =>
    cases front' with
    | nil =>
      obtain ⟨rfl, -⟩ := List.cons.inj same
      exact absurd (inner b List.mem_cons_self) ends'
    | cons b' front' =>
      obtain ⟨rfl, tails⟩ := List.cons.inj same
      obtain ⟨rfl, items, rests⟩ := ih (List.forall_mem_cons.mp inner).2
        (List.forall_mem_cons.mp inner').2 tails
      exact ⟨rfl, items, rests⟩

/-- What is taken off a list ends in front of the first item that is not taken. -/
theorem takeWhile_append_cons {p : α → Bool} {front : List α} {a : α} (rest : List α)
    (inner : ∀ b ∈ front, p b = true) (ends : p a = false) :
    (front ++ a :: rest).takeWhile p = front := by
  rw [List.takeWhile_append_of_pos inner, List.takeWhile_cons_of_neg (by simp [ends]),
    List.append_nil]

section Finding

variable {find : Finder α} {kind : PartKind α} {old new rest as as' : List α} {a : α}

/-- A part is replaced, and what follows it is gone through. -/
theorem Finds.replaceEach_append (finds : Finds find kind) (part : kind old new rest) :
    replaceEach find (old ++ rest) = new ++ replaceEach find rest := by
  have found := finds.found part
  obtain ⟨a, more, rfl⟩ := List.exists_cons_of_ne_nil (finds.ne_nil part)
  rw [List.cons_append] at found ⊢
  rw [replaceEach, found]
  simp

/-- An item that no part starts with stays. -/
theorem Finds.replaceEach_cons (finds : Finds find kind) (apart : ¬StartsPart kind (a :: as)) :
    replaceEach find (a :: as) = a :: replaceEach find as := by
  rw [replaceEach, finds.missed apart]

/-- **A finder replaces what it finds**, and nothing else. -/
theorem replaced_iff (finds : Finds find kind) :
    Replaced kind as as' ↔ as' = replaceEach find as := by
  constructor
  · intro replaced
    induction replaced with
    | nil => rw [replaceEach]
    | part found after ih => rw [finds.replaceEach_append found, ih]
    | other apart after ih => rw [finds.replaceEach_cons apart, ih]
  · rintro rfl
    induction n : as.length using Nat.strongRecOn generalizing as with
    | ind _ ih =>
      subst n
      cases as with
      | nil =>
        rw [replaceEach]
        exact .nil
      | cons a as =>
        by_cases starts : StartsPart kind (a :: as)
        · obtain ⟨old, new, rest, found, same⟩ := starts
          have shorter : rest.length < (a :: as).length := by
            have := List.length_pos_iff.mpr (finds.ne_nil found)
            rw [same, List.length_append]
            omega
          rw [same, finds.replaceEach_append found]
          exact .part found (ih _ shorter rfl)
        · rw [finds.replaceEach_cons starts]
          exact .other starts (ih _ (Nat.lt_succ_self _) rfl)

/-- **A list stays as it is** if each part that starts anywhere in it is replaced by itself. -/
theorem replaced_self (finds : Finds find kind)
    (same : ∀ old new rest, kind old new rest → old ++ rest <:+ as → old = new) :
    Replaced kind as as := by
  induction n : as.length using Nat.strongRecOn generalizing as with
  | ind _ ih =>
    subst n
    cases as with
    | nil => exact .nil
    | cons a as =>
      by_cases starts : StartsPart kind (a :: as)
      · obtain ⟨old, new, rest, found, whole⟩ := starts
        have shorter : rest.length < (a :: as).length := by
          have := List.length_pos_iff.mpr (finds.ne_nil found)
          rw [whole, List.length_append]
          omega
        obtain rfl := same old new rest found (whole ▸ List.suffix_rfl)
        rw [whole] at same ⊢
        have after := ih _ shorter (fun old' new' rest' found' suffix =>
          same old' new' rest' found' (suffix.trans (List.suffix_append old rest))) rfl
        exact .part found after
      · refine .other starts (ih _ (Nat.lt_succ_self _) (fun old new rest found suffix => ?_) rfl)
        exact same old new rest found (suffix.trans (List.suffix_cons a as))

end Finding

end DepGraph.Text

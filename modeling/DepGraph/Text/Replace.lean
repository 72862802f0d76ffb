/-!
# Replacing parts of a text

A **finder** looks at the start of a list and says what the part there is replaced by, if it is one
to replace. `DepGraph.Text.replaceEach` applies a finder from left to right: a part that is found is
replaced as a whole and not looked at again.
-/

namespace DepGraph.Text

variable {α : Type}

/-- A **finder**: what replaces the part at the start of a list, and how many items of it come after
its first one. -/
abbrev Finder (α : Type) := List α → Option (List α × Nat)

/-- **Replaces** each part that a finder finds. -/
def replaceEach (find : Finder α) : List α → List α
  | [] => []
  | a :: as =>
    match find (a :: as) with
    | some (new, more) => new ++ replaceEach find (as.drop more)
    | none => a :: replaceEach find as
termination_by as => as.length

end DepGraph.Text

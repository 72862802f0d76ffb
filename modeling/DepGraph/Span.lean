import DepGraph.Fault

/-!
# Spans

The stages of an ingestion are traced as **spans**, which carry attributes and, if the stage failed,
the fault. A span is told when it ends, so that a span comes after those inside it.
-/

namespace DepGraph

/-- A **span** that ended. -/
structure Span where
  /-- The name of the stage. -/
  stage : String
  /-- The name of the stage around it. -/
  parent : Option String := none
  /-- The attributes, in the order in which they were set. -/
  attributes : List (String × Json) := []
  /-- The fault that ended it, if it failed. -/
  fault : Option Fault := none

namespace Span

/-- The name of the span of a stage. -/
def nameOf (stage : String) : String := "ingest." ++ stage

/-- The type of a value that can stand alone in an attribute, as a number, if it has one. -/
def scalarType? : Json → Option Nat
  | .bool _ => some 0
  | .int _ => some 1
  | .float _ => some 2
  | .str _ => some 3
  | _ => none

/-- Whether a value can be an attribute: a scalar, or an array of scalars of one type in which some
may be missing. -/
def isAttribute : Json → Bool
  | .arr items =>
    let present := items.filter fun j => !(j matches .null)
    present.all fun j =>
      (scalarType? j).isSome && scalarType? j == (present.head?.bind scalarType?)
  | j => (scalarType? j).isSome

/-- The attributes with one more set, in place of an earlier one of its name; a value that cannot be
an attribute, or one without a name, is not set. -/
def setAttribute (attributes : List (String × Json)) (name : String) (value : Json) :
    List (String × Json) :=
  if name != "" && isAttribute value then
    attributes.filter (·.1 != name) ++ [(name, value)]
  else attributes

/-- Some attributes, set one after the other. -/
def attributesOf (attributes : List (String × Json)) : List (String × Json) :=
  attributes.foldl (fun as a => setAttribute as a.1 a.2) []

/-- The word for how a span ended. -/
def status (s : Span) : String := if s.fault.isSome then "ERROR" else "UNSET"

/-- What a span says about its fault. -/
def description (s : Span) : Option String := s.fault.map Fault.summary

end Span

end DepGraph

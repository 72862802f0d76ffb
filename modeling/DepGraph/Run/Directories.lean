import DepGraph.Fault

/-!
# The directories of the runs

Every run has a directory of its own in a root that they share, named by the milliseconds of its
start. **Choosing** it (`DepGraph.RunDirectories.freeStamp`) counts up from the clock until the name
is free; as every name that is taken is passed at most once, counting ends.
-/

namespace DepGraph

/-- The **directories of the runs**: the root that they are made in, and which of them there are. -/
structure RunDirectories where
  /-- Where the root is. -/
  root : String
  /-- What keeps the root from being a directory, if anything does. -/
  obstacle : Option PlaceFlaw := none
  /-- The stamps whose names are taken. -/
  taken : List Int := []
deriving Repr

namespace RunDirectories

/-- The place of the directory with this stamp. -/
def placeOf (root : String) (stamp : Int) : String :=
  String.ofList (Path.tidy (Path.join root.toList (toString stamp).toList))

/-- The clock in whole milliseconds, given in nanoseconds. -/
def milliseconds (ns : Int) : Int := ns.fdiv 1000000

/-- The least stamp from this one on that is not taken, where at most `rounds` are. -/
def freeFrom (taken : Int → Bool) : (rounds : Nat) → Int → Int
  | 0, stamp => stamp
  | rounds + 1, stamp => if taken stamp then freeFrom taken rounds (stamp + 1) else stamp

/-- The **free stamp** of a clock reading: the least one not below it that is not taken. -/
def freeStamp (taken : List Int) (ns : Int) : Int :=
  freeFrom taken.contains taken.length (milliseconds ns)

/-- The stamp of the directory of the next run. -/
def newStamp (d : RunDirectories) (ns : Int) : Except Fault Int :=
  match d.obstacle with
  | some flaw => .error (.place flaw d.root)
  | none => .ok (freeStamp d.taken ns)

/-- The number of a numeral: digits, with a minus in front of them or not. -/
def numberOf : List Char → Int
  | '-' :: digits => -(Nat.ofDigitChars 10 digits 0)
  | digits => Nat.ofDigitChars 10 digits 0

/-- The stamp that a name spells, if it is the name of a directory with a stamp. -/
def stampOf? (name : String) : Option Int :=
  let stamp := numberOf name.toList
  if toString stamp = name then some stamp else none

/-- The directories when a name in their root is taken. -/
def withName (d : RunDirectories) (name : String) : RunDirectories :=
  { d with taken := (stampOf? name).toList ++ d.taken }

/-- The directories when a plain file stands at a place: at the root it takes the root's place,
above the root nothing can be made, and in the root it takes a name. -/
def withFile (d : RunDirectories) (place : String) : RunDirectories :=
  let file := Path.steps place
  let root := Path.steps d.root
  if file == root then { d with obstacle := some .taken }
  else if file.isPrefixOf root then { d with obstacle := some .notDirectory }
  else if file.dropLast == root then d.withName (file.getLastD "")
  else d

end RunDirectories

end DepGraph

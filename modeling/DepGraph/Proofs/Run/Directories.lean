import DepGraph.Proofs.Ignore.Below
import DepGraph.Proofs.Path.Normal
import DepGraph.Proofs.Survey.Names
import DepGraph.Run.Directories
import Mathlib.Data.List.Nodup
import Mathlib.Order.Bounds.Defs

/-!
# Every run has a directory of its own

The stamp of a run's directory is found by counting up from the clock, past the names that are
taken. Nothing bounds this loop from outside (`DepGraph.RunDirectories.CountsUp`). It ends as the
root has finitely many entries: with each round there is one less of them at or above the stamp.
Where it ends is the least free stamp that is not below the clock.

So the clock need not move on, and may go back: the directories of calls that each make the
directory they are given are distinct, and none of them was there before
(`DepGraph.RunDirectories.fresh_given`).
-/

namespace DepGraph

/-! ### The places in a root -/

namespace Path

variable {dir name : List Char}

/-- The slashes at the front are the same whatever comes after something other than a slash. -/
theorem root_append_cons {a : Char} (other : a ≠ '/') (rest : List Char) :
    root (dir ++ a :: rest) = root dir := by
  match dir with
  | [] => simp [root, other]
  | [b] => by_cases first : b = '/' <;> simp [root, first, other]
  | [b, c] => by_cases first : b = '/' <;> by_cases second : c = '/' <;> simp [root, *]
  | b :: c :: d :: more =>
    by_cases first : b = '/' <;> by_cases second : c = '/' <;> by_cases third : d = '/' <;>
      simp [root, *]

/-- A name has a first character, which is no slash. -/
theorem exists_cons_of_moves (plain : '/' ∉ name) (moves : isIdle name = false) :
    ∃ a rest, name = a :: rest ∧ a ≠ '/' := by
  cases name with
  | nil => exact absurd moves (by decide)
  | cons a rest => exact ⟨a, rest, rfl, fun slash => plain (slash ▸ List.mem_cons_self)⟩

/-- A name in a directory has the slashes of the directory at its front. -/
theorem root_join (plain : '/' ∉ name) (moves : isIdle name = false) :
    root (join dir name) = root dir := by
  obtain ⟨a, rest, rfl, other⟩ := exists_cons_of_moves plain moves
  unfold join
  rw [if_neg (by simpa using other)]
  split
  · exact root_append_cons other rest
  next between =>
    rcases List.eq_nil_or_concat dir with rfl | ⟨front, b, rfl⟩
    · simp at between
    · have other : b ≠ '/' := by simpa using between
      rw [List.concat_eq_append, List.append_assoc, List.singleton_append,
        root_append_cons other, root_append_cons other]

/-- A name in a directory leads where the directory leads, and one step further. -/
theorem filter_components_join (plain : '/' ∉ name) (moves : isIdle name = false) :
    (components (join dir name)).filter (fun c => !isIdle c) =
      (components dir).filter (fun c => !isIdle c) ++ [name] := by
  obtain ⟨a, rest, same, other⟩ := exists_cons_of_moves plain moves
  have itself : [name].filter (fun c => !isIdle c) = [name] := by simp [moves]
  unfold join
  rw [if_neg (by simpa [same] using other)]
  split
  next ends =>
    rcases List.eq_nil_or_concat dir with rfl | ⟨front, b, rfl⟩
    · rw [List.nil_append, components_of_plain plain, itself]
      rfl
    · obtain rfl : b = '/' := by simpa using ends
      rw [List.concat_eq_append, List.append_assoc, List.singleton_append,
        components_append_cons_slash, components_append_cons_slash, components_of_plain plain,
        List.filter_append, List.filter_append, itself]
      simp [components, isIdle]
  next =>
    rw [components_append_cons_slash, components_of_plain plain, List.filter_append, itself]

/-- Where something is left of a path, that is the path in its tidy form. -/
theorem tidy_eq_of_ne_nil {path cs : List Char}
    (same : root path ++ joined ((components path).filter fun c => !isIdle c) = cs)
    (left : cs ≠ []) : tidy path = cs := by
  obtain ⟨c, more, rfl⟩ := List.exists_cons_of_ne_nil left
  simp only [tidy, same]

/-- **The place of a name ends with the name**, and what is in front of it depends on the directory
only. -/
theorem exists_tidy_join (dir : List Char) :
    ∃ front, ∀ name, '/' ∉ name → isIdle name = false → tidy (join dir name) = front ++ name := by
  rcases eq_or_ne ((components dir).filter fun c => !isIdle c) [] with none | more
  · refine ⟨root dir, fun name plain moves => tidy_eq_of_ne_nil ?_ ?_⟩
    · rw [root_join plain moves, filter_components_join plain moves, none, List.nil_append]
      rfl
    · exact List.append_ne_nil_of_right_ne_nil _ (ne_nil_of_isIdle_eq_false moves)
  · refine ⟨root dir ++ joined ((components dir).filter fun c => !isIdle c) ++ ['/'],
      fun name plain moves => tidy_eq_of_ne_nil ?_ ?_⟩
    · rw [root_join plain moves, filter_components_join plain moves, joined_concat more]
      simp
    · exact List.append_ne_nil_of_right_ne_nil _ (ne_nil_of_isIdle_eq_false moves)

end Path

namespace RunDirectories

/-- The digits of a number make a name. -/
theorem isName_toDigits (n : Nat) :
    '/' ∉ Nat.toDigits 10 n ∧ Path.isIdle (Nat.toDigits 10 n) = false := by
  have digits (c : Char) (hc : c ∈ Nat.toDigits 10 n) : c.isDigit = true :=
    Nat.isDigit_of_mem_toDigits (by decide) (by decide) hc
  have point : Nat.toDigits 10 n ≠ Path.here := fun same => by
    have := digits '.' (by rw [same]; decide)
    exact absurd this (by decide)
  exact ⟨fun slash => absurd (digits '/' slash) (by decide), by simp [Path.isIdle, point]⟩

/-- So does a stamp, with a minus sign in front or without. -/
theorem isName_toString (stamp : Int) :
    '/' ∉ (toString stamp).toList ∧ Path.isIdle (toString stamp).toList = false := by
  rw [Int.toString_eq_repr]
  cases stamp with
  | ofNat n => simpa [Int.repr] using isName_toDigits n
  | negSucc n =>
    have plain := (isName_toDigits (n + 1)).1
    simpa [Int.repr, Path.isIdle, Path.here] using plain

/-- A stamp is read back from its name. -/
theorem numberOf_toString (stamp : Int) : numberOf (toString stamp).toList = stamp := by
  rw [Int.toString_eq_repr]
  cases stamp with
  | ofNat n =>
    have unsigned : numberOf (Nat.toDigits 10 n) = Nat.ofDigitChars 10 (Nat.toDigits 10 n) 0 := by
      unfold numberOf
      split
      next digits same =>
        have digit : '-'.isDigit = true :=
          Nat.isDigit_of_mem_toDigits (b := 10) (n := n) (by decide) (by decide) (by simp [same])
        exact absurd digit (by decide)
      next => rfl
    rw [Nat.ofDigitChars_ten_toDigits] at unsigned
    simpa [Int.repr] using unsigned
  | negSucc n =>
    simp only [Int.repr, String.toList_append, Nat.toList_repr]
    exact congrArg (fun m : Nat => -(m : Int)) Nat.ofDigitChars_ten_toDigits

/-- **Different stamps have different places.** -/
theorem placeOf_injective (root : String) : Function.Injective (placeOf root) := by
  intro stamp stamp' same
  obtain ⟨front, place⟩ := Path.exists_tidy_join root.toList
  obtain ⟨plain, moves⟩ := isName_toString stamp
  obtain ⟨plain', moves'⟩ := isName_toString stamp'
  have chars := String.ofList_injective same
  rw [place _ plain moves, place _ plain' moves'] at chars
  have names : toString stamp = toString stamp' :=
    String.toList_injective (List.append_cancel_left chars)
  rw [← numberOf_toString stamp, names, numberOf_toString]

/-! ### Counting up -/

section Counting

variable {IsTaken : Int → Prop} {taken : List Int} {stamp n : Int}

/-- **Counting up** from a stamp, as long as it is taken. -/
inductive CountsUp (IsTaken : Int → Prop) : Int → Int → Prop
  /-- A free stamp ends it. -/
  | stop {stamp : Int} (free : ¬IsTaken stamp) : CountsUp IsTaken stamp stamp
  /-- A stamp that is taken is passed. -/
  | pass {stamp n : Int} (held : IsTaken stamp) (onward : CountsUp IsTaken (stamp + 1) n) :
    CountsUp IsTaken stamp n

/-- **Counting up ends at the least free stamp** that is not below the first one. -/
theorem CountsUp.isLeast (counts : CountsUp IsTaken stamp n) :
    IsLeast {m | stamp ≤ m ∧ ¬IsTaken m} n := by
  induction counts with
  | stop free => exact ⟨⟨le_refl _, free⟩, fun m above => above.1⟩
  | pass held onward ih =>
    obtain ⟨⟨above, free⟩, least⟩ := ih
    refine ⟨⟨by omega, free⟩, fun m ⟨high, free⟩ => least ⟨?_, free⟩⟩
    rcases eq_or_lt_of_le high with rfl | high
    · exact absurd held free
    · omega

/-- **Counting up ends**: enough rounds are those of which there is one for each stamp that is taken
at or above the first one. -/
theorem countsUp_freeFrom {rounds : Nat} (few : (taken.filter (stamp ≤ ·)).length ≤ rounds) :
    CountsUp (· ∈ taken) stamp (freeFrom taken.contains rounds stamp) := by
  induction rounds generalizing stamp with
  | zero =>
    refine .stop fun held => ?_
    have none := List.length_eq_zero_iff.mp (Nat.le_zero.mp few)
    have : stamp ∈ taken.filter (stamp ≤ ·) := by simpa using held
    rw [none] at this
    cases this
  | succ rounds ih =>
    rw [freeFrom]
    split
    next held =>
      have held : stamp ∈ taken := List.contains_iff_mem.mp held
      refine .pass held (ih (Nat.le_of_lt_succ (lt_of_lt_of_le ?_ few)))
      -- the stamp itself is at or above itself, but not above
      have onward : taken.filter (stamp + 1 ≤ ·) = (taken.filter (stamp ≤ ·)).filter (· ≠ stamp) := by
        rw [List.filter_filter]
        refine List.filter_congr fun m _ => ?_
        rw [← Bool.decide_and, decide_eq_decide]
        omega
      rw [onward]
      exact List.length_filter_lt_length_iff_exists.mpr
        ⟨stamp, List.mem_filter.mpr ⟨held, by simp⟩, by simp⟩
    next free => exact .stop fun held => free (List.contains_iff_mem.mpr held)

/-- Choosing a stamp counts up from the clock. -/
theorem countsUp_freeStamp (taken : List Int) (ns : Int) :
    CountsUp (· ∈ taken) (milliseconds ns) (freeStamp taken ns) :=
  countsUp_freeFrom (List.length_filter_le _ _)

end Counting

/-! ### Entries of the root -/

section Entries

variable {d : RunDirectories} {root name : String} {names : List String} {n : Int}

/-- The directories of a root that has **entries** of these names, of whatever kind. A link that
leads nowhere counts for none. -/
def ofEntries (root : String) (names : List String) : RunDirectories :=
  names.foldl withName { root }

/-- A stamp is read off the name that it makes. -/
theorem stampOf?_eq_some_iff : stampOf? name = some n ↔ name = toString n := by
  constructor
  · intro h
    simp only [stampOf?] at h
    split at h
    next same => exact (Option.some.inj h) ▸ same.symm
    next => cases h
  · rintro rfl
    simp only [stampOf?, numberOf_toString, if_true]

/-- One name more takes the stamp that makes it. -/
theorem mem_taken_withName : n ∈ (d.withName name).taken ↔ toString n = name ∨ n ∈ d.taken := by
  rw [withName, List.mem_append, Option.mem_toList, stampOf?_eq_some_iff, eq_comm]

/-- One entry more comes last. -/
theorem ofEntries_concat :
    ofEntries root (names ++ [name]) = (ofEntries root names).withName name := by
  rw [ofEntries, List.foldl_append, List.foldl_cons, List.foldl_nil, ← ofEntries]

/-- A stamp is taken if it makes the name of an entry. -/
theorem mem_taken_ofEntries : n ∈ (ofEntries root names).taken ↔ toString n ∈ names := by
  induction names using List.reverseRecOn with
  | nil => simp [ofEntries]
  | append_singleton names name ih =>
    rw [ofEntries_concat, mem_taken_withName, ih, List.mem_append, List.mem_singleton, or_comm]

/-- Entries leave the root where it is, and in nobody's way. -/
theorem ofEntries_root :
    (ofEntries root names).root = root ∧ (ofEntries root names).obstacle = none := by
  induction names using List.reverseRecOn with
  | nil => exact ⟨rfl, rfl⟩
  | append_singleton names name ih => rwa [ofEntries_concat]

/-- The next stamp is the free one. -/
theorem newStamp_ofEntries (ns : Int) :
    (ofEntries root names).newStamp ns = .ok (freeStamp (ofEntries root names).taken ns) := by
  rw [newStamp, ofEntries_root.2]

/-- **A call ends, and gives the least free stamp that is not below the clock.** -/
theorem freeStamp_ofEntries (root : String) (names : List String) (ns : Int) :
    CountsUp (toString · ∈ names) (milliseconds ns) (freeStamp (ofEntries root names).taken ns) := by
  have counts := countsUp_freeStamp (ofEntries root names).taken ns
  simpa only [mem_taken_ofEntries] using counts

end Entries

/-! ### Calls one after the other -/

/-- The stamps that calls at these clock readings are **given**, if each of them makes its directory
before the next one. -/
def given (d : RunDirectories) : List Int → Except Fault (List Int)
  | [] => .ok []
  | ns :: readings => do
    let stamp ← d.newStamp ns
    let stamps ← (d.withName (toString stamp)).given readings
    return stamp :: stamps

/-- Stamps are **fresh** if each of them is the least one not below the clock whose name was free at
its time, and then taken. -/
inductive Fresh : List String → List Int → List Int → Prop
  /-- There were no calls. -/
  | nil {names : List String} : Fresh names [] []
  /-- A call, and those after it. -/
  | cons {names : List String} {ns stamp : Int} {readings stamps : List Int}
    (least : IsLeast {n | milliseconds ns ≤ n ∧ toString n ∉ names} stamp)
    (after : Fresh (names ++ [toString stamp]) readings stamps) :
    Fresh names (ns :: readings) (stamp :: stamps)

section Calls

variable {names : List String} {readings stamps : List Int} {stamp : Int}

/-- Names of fresh stamps were free. -/
theorem Fresh.not_mem (fresh : Fresh names readings stamps) (h : stamp ∈ stamps) :
    toString stamp ∉ names := by
  induction fresh with
  | nil => cases h
  | cons least after ih =>
    rcases List.mem_cons.mp h with rfl | h
    · exact least.1.2
    · exact fun held => ih h (List.mem_append_left _ held)

/-- Fresh stamps are distinct. -/
theorem Fresh.nodup (fresh : Fresh names readings stamps) : stamps.Nodup := by
  induction fresh with
  | nil => exact List.nodup_nil
  | cons least after ih =>
    exact List.nodup_cons.mpr ⟨fun again => after.not_mem again (by simp), ih⟩

/-- Calls are given fresh stamps. -/
theorem exists_given (root : String) (names : List String) (readings : List Int) :
    ∃ stamps, (ofEntries root names).given readings = .ok stamps ∧
      Fresh names readings stamps := by
  induction readings generalizing names with
  | nil => exact ⟨[], rfl, .nil⟩
  | cons ns readings ih =>
    let stamp := freeStamp (ofEntries root names).taken ns
    obtain ⟨stamps, after, fresh⟩ := ih (names ++ [toString stamp])
    refine ⟨stamp :: stamps, ?_, .cons (freeStamp_ofEntries root names ns).isLeast fresh⟩
    rw [ofEntries_concat] at after
    rw [given, newStamp_ofEntries]
    simp only [bind, Except.bind, pure, Except.pure]
    rw [after]

/-- **Every run gets a directory of its own.** Whatever entries the root has and whatever the clock
shows, counting up from it ends, at the least stamp not below it whose name is free. So calls one
after the other, at any clock readings, are each given the least stamp that is free at their time:
their places are distinct, and none of their names was there before. -/
theorem fresh_given (root : String) (names : List String) :
    (∀ ns, ∃ stamp, (ofEntries root names).newStamp ns = .ok stamp ∧
      CountsUp (toString · ∈ names) (milliseconds ns) stamp ∧
      IsLeast {n | milliseconds ns ≤ n ∧ toString n ∉ names} stamp) ∧
    ∀ readings, ∃ stamps, (ofEntries root names).given readings = .ok stamps ∧
      Fresh names readings stamps ∧ (stamps.map (placeOf root)).Nodup ∧
      ∀ stamp ∈ stamps, toString stamp ∉ names := by
  refine ⟨fun ns => ?_, fun readings => ?_⟩
  · have counts := freeStamp_ofEntries root names ns
    exact ⟨_, newStamp_ofEntries ns, counts, counts.isLeast⟩
  · obtain ⟨stamps, calls, fresh⟩ := exists_given root names readings
    exact ⟨stamps, calls, fresh, fresh.nodup.map (placeOf_injective root),
      fun stamp h => fresh.not_mem h⟩

end Calls

end RunDirectories

end DepGraph

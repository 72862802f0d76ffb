import DepGraph.Tree
import Mathlib.Data.String.Basic

/-!
# Names in a tree

A path into a tree is a list of **names**, each of which leads from a directory to one of its
entries. A name is not empty and has no slash (`DepGraph.Path.IsName`), so that names and the path
that they make determine each other (`DepGraph.Path.names_ofNames`), and names that come first in
the alphabet make paths that come first, component by component (`DepGraph.Path.components_lt`).

A tree is **sound** (`DepGraph.Entry.Sound`) if the names in each of its directories are such names
and distinct, as a disk has it. There going down by names (`DepGraph.Entry.descend`) does not depend
on the order in which a directory lists its entries.
-/

namespace DepGraph

/-! ### Names and paths -/

namespace Path

/-- The names in a path. -/
def names (path : String) : List String := (components path.toList).map String.ofList

/-- The path that names make. -/
def ofNames (names : List String) : String := String.ofList (joined (names.map String.toList))

/-- What an entry of a directory can be called. -/
structure IsName (name : String) : Prop where
  /-- A name has something in it. -/
  ne_empty : name ≠ ""
  /-- A name is one component of a path. -/
  noSlash : '/' ∉ name.toList

instance (name : String) : Decidable (IsName name) :=
  decidable_of_iff (name ≠ "" ∧ '/' ∉ name.toList) ⟨fun h => ⟨h.1, h.2⟩, fun h => ⟨h.1, h.2⟩⟩

/-- A path is made of its names. -/
theorem ofNames_names (path : String) : ofNames (names path) = path := by
  have chars : (names path).map String.toList = components path.toList := by
    simp [names, Function.comp_def]
  rw [ofNames, chars, joined_components, String.ofList_toList]

/-- A slash follows a component that is not the last one. -/
theorem joined_cons (c : List Char) {cs : List (List Char)} (more : cs ≠ []) :
    joined (c :: cs) = c ++ '/' :: joined cs := by
  obtain ⟨d, ds, rfl⟩ := List.exists_cons_of_ne_nil more
  rfl

/-- One more component comes after a slash. -/
theorem joined_concat {cs : List (List Char)} (more : cs ≠ []) (c : List Char) :
    joined (cs ++ [c]) = joined cs ++ '/' :: c := by
  induction cs with
  | nil => exact absurd rfl more
  | cons d ds ih =>
    rcases eq_or_ne ds [] with rfl | more
    · rfl
    · rw [List.cons_append, joined_cons d (by simp), ih more, joined_cons d more]
      simp

/-- A component with no slash in it is the first one of a path. -/
theorem components_append_slash {c : List Char} (plain : '/' ∉ c) (rest : List Char) :
    components (c ++ '/' :: rest) = c :: components rest := by
  induction c with
  | nil => simp [components]
  | cons a c ih =>
    have next := ih fun h => plain (List.mem_cons_of_mem _ h)
    have other : a ≠ '/' := fun h => plain (h ▸ List.mem_cons_self)
    simp [components, other, next]

/-- What has no slash is one component. -/
theorem components_of_plain {c : List Char} (plain : '/' ∉ c) : components c = [c] := by
  induction c with
  | nil => rfl
  | cons a c ih =>
    have next := ih fun h => plain (List.mem_cons_of_mem _ h)
    have other : a ≠ '/' := fun h => plain (h ▸ List.mem_cons_self)
    simp [components, other, next]

/-- Components with no slash in them are those of their join. -/
theorem components_joined {cs : List (List Char)} (more : cs ≠ [])
    (plain : ∀ c ∈ cs, '/' ∉ c) : components (joined cs) = cs := by
  induction cs with
  | nil => exact absurd rfl more
  | cons c cs ih =>
    have first := plain c List.mem_cons_self
    rcases eq_or_ne cs [] with rfl | more
    · exact components_of_plain first
    · rw [joined_cons c more, components_append_slash first,
        ih more fun x hx => plain x (List.mem_cons_of_mem _ hx)]

variable {above rest rest' : List String} {name name' : String}

/-- The components of the path that names make are the names. -/
theorem components_ofNames (more : above ≠ []) (proper : ∀ n ∈ above, IsName n) :
    components (ofNames above).toList = above.map String.toList := by
  rw [ofNames, String.toList_ofList]
  refine components_joined (by simpa using more) fun c hc => ?_
  obtain ⟨n, hn, rfl⟩ := List.mem_map.mp hc
  exact (proper n hn).noSlash

/-- **Names are those of the path that they make.** -/
theorem names_ofNames (more : above ≠ []) (proper : ∀ n ∈ above, IsName n) :
    names (ofNames above) = above := by
  rw [names, components_ofNames more proper, List.map_map]
  simp [Function.comp_def]

/-- Names make a path that is not empty. -/
theorem ofNames_ne_empty (more : above ≠ []) (proper : ∀ n ∈ above, IsName n) :
    ofNames above ≠ "" := by
  intro nothing
  have itself := components_ofNames more proper
  rw [nothing] at itself
  cases above with
  | nil => exact more rfl
  | cons n above =>
    have empty : n.toList = [] := (List.cons.inj itself).1.symm
    exact (proper n List.mem_cons_self).ne_empty (String.toList_eq_nil_iff.mp empty)

/-- **Where names first differ decides the order** of the paths that they make, component by
component. -/
theorem components_lt (first : name < name')
    (proper : ∀ n ∈ above ++ name :: rest, IsName n)
    (proper' : ∀ n ∈ above ++ name' :: rest', IsName n) :
    components (ofNames (above ++ name :: rest)).toList <
      components (ofNames (above ++ name' :: rest')).toList := by
  rw [components_ofNames (by simp) proper, components_ofNames (by simp) proper', List.map_append,
    List.map_append]
  refine List.append_left_lt ?_
  rw [List.map_cons, List.map_cons]
  exact List.cons_lt_cons_iff.mpr (Or.inl (String.lt_iff_toList_lt.mp first))

end Path

/-! ### Going down a tree -/

namespace Entry

/-- A tree is **sound** if it can stand on a disk: the names in each directory are distinct. -/
inductive Sound : Entry → Prop
  | file (bytes : Bytes) : Sound (.file bytes)
  | link (target : String) : Sound (.link target)
  | directory {entries : List (String × Entry)} (proper : ∀ x ∈ entries, Path.IsName x.1)
    (apart : (entries.map (·.1)).Nodup) (inner : ∀ x ∈ entries, Sound x.2) :
    Sound (.directory entries)

/-- The entry to which names lead from directory to directory. A symbolic link is an entry like any
other here, and nothing is below it. -/
def descend : List String → Entry → Option Entry
  | [], e => some e
  | name :: names, e => (e.child? name).bind (descend names)

variable {entries : List (String × Entry)} {e : Entry} {name : String} {names more : List String}

/-- In a directory with distinct names an entry is found by its name. -/
theorem child?_directory_eq_some (apart : (entries.map (·.1)).Nodup) :
    (directory entries).child? name = some e ↔ (name, e) ∈ entries := by
  simp only [child?, Entry.entries]
  induction entries with
  | nil => simp
  | cons x entries ih =>
    obtain ⟨new, apart⟩ := List.nodup_cons.mp apart
    rcases eq_or_ne x.1 name with rfl | other
    · have absent : (x.1, e) ∉ entries := fun h => new (List.mem_map.mpr ⟨_, h, rfl⟩)
      simp [absent, Prod.ext_iff, eq_comm]
    · have aside : (name, e) ≠ x := fun h => other (congrArg Prod.fst h).symm
      simp [other, aside, ih apart]

/-- Names lead out of a directory by one of its entries. -/
theorem descend_directory_cons (apart : (entries.map (·.1)).Nodup) {goal : Entry} :
    descend (name :: names) (directory entries) = some goal ↔
      ∃ e, (name, e) ∈ entries ∧ descend names e = some goal := by
  simp only [descend, Option.bind_eq_some_iff, child?_directory_eq_some apart]

theorem descend_file_cons (bytes : Bytes) : descend (name :: names) (file bytes) = none := rfl

theorem descend_link_cons (target : String) : descend (name :: names) (link target) = none := rfl

/-- Names that lead on from where others led. -/
theorem descend_append : descend (names ++ more) e = (descend names e).bind (descend more) := by
  induction names generalizing e with
  | nil => rfl
  | cons name names ih =>
    rw [List.cons_append, descend, descend, Option.bind_assoc]
    exact congrArg _ (funext fun _ => ih)

/-- **Names lead on from real directories only**, and not from symbolic links. -/
theorem exists_directory_of_descend_append {goal : Entry}
    (h : descend (names ++ more) e = some goal) (ne : more ≠ []) :
    ∃ entries, descend names e = some (directory entries) := by
  rw [descend_append] at h
  obtain ⟨between, hb, h⟩ := Option.bind_eq_some_iff.mp h
  obtain ⟨name, more, rfl⟩ := List.exists_cons_of_ne_nil ne
  cases between with
  | file bytes => simp [descend_file_cons] at h
  | link target => simp [descend_link_cons] at h
  | directory entries => exact ⟨entries, hb⟩

/-- In a sound tree names that lead somewhere are such names. -/
theorem Sound.isName_of_descend (sound : e.Sound) {goal : Entry}
    (h : descend names e = some goal) : ∀ n ∈ names, Path.IsName n := by
  induction sound generalizing names with
  | file bytes =>
    cases names with
    | nil => simp
    | cons name names => simp [descend_file_cons] at h
  | link target =>
    cases names with
    | nil => simp
    | cons name names => simp [descend_link_cons] at h
  | directory proper apart _ ih =>
    cases names with
    | nil => simp
    | cons name names =>
      obtain ⟨e, he, h⟩ := (descend_directory_cons apart).mp h
      exact List.forall_mem_cons.mpr ⟨proper _ he, ih _ he h⟩

end Entry

end DepGraph

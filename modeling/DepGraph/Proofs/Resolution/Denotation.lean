import DepGraph.Proofs.Path.Normal
import DepGraph.Resolution

/-!
# What a specifier denotes

The candidates of a specifier are its base with endings, and it **denotes** the first known path
that is the normal form of one of them (`DepGraph.Resolution.denoted?`). As the base is a normal
form itself, so is almost every candidate (`DepGraph.Resolution.normalize_written_append`), and the
target of a specifier is what it denotes.

There is one exception. The base may be the root directory, which is written `.`, and then the
candidates for its index files are no normal forms: `./index.js` is tried, and `index.js` is known.
Such an index file is missed (`DepGraph.Resolution.MissesRoot`), and nothing else ever is
(`DepGraph.Resolution.target?_eq_denoted?_iff`).
-/

namespace DepGraph

namespace Resolution

open DepGraph.Path (Settled written here normalize)

/-! ### Denotations -/

/-- The **normal form** of a path. -/
def normal (path : String) : String := String.ofList (normalize path.toList)

/-- The path that a specifier **denotes**: the first known one that is the normal form of a
candidate. -/
def denoted? (known : String → Bool) (importer spec : String) : Option String :=
  ((candidates importer spec).map normal).find? known

/-- The index files of the root directory, in order. -/
def rootIndexes : List String := indexNames.map String.ofList

/-- The candidates for the root directory that are not looked for in it, in order. -/
def besideRoot : List String := ([] :: suffixes).map fun e => String.ofList (here ++ e)

/-- The index file of the root directory that a specifier denotes is **missed**. -/
structure MissesRoot (known : String → Bool) (importer spec : String) : Prop where
  /-- The specifier leads to the root directory. -/
  atRoot : base importer spec = "."
  /-- No candidate that comes before the index files is known. -/
  noOther : ∀ path ∈ besideRoot, known path = false
  /-- An index file of the root directory is known. -/
  index : ∃ path ∈ rootIndexes, known path = true

/-! ### Bases and candidates -/

section Bases

variable {importer spec e : List Char} {cs : List (List Char)}

/-- A specifier with its slashes in order does not start with one. -/
theorem head?_slashed : (slashed spec).head? ≠ some '/' := by
  intro slash
  have first := List.head?_dropWhile_not (· == '/') (spec.map fun c => if c = '\\' then '/' else c)
  rw [slashed] at slash
  simp [slash] at first

/-- The directory of a path is where the path starts. -/
theorem directory_prefix (path : List Char) : Path.directory path <+: path := by
  have before (p : Char → Bool) (cs : List Char) : (cs.reverse.dropWhile p).reverse <+: cs := by
    simpa using List.reverse_prefix.mpr (List.dropWhile_suffix p (l := cs.reverse))
  simp only [Path.directory]
  split
  · exact before _ path
  · exact (before _ _).trans (before _ path)

/-- What is joined to the directory of a file without a root has no root. -/
theorem head?_join_directory (relative : importer.head? ≠ some '/') :
    (Path.join (Path.directory importer) (slashed spec)).head? ≠ some '/' := by
  obtain ⟨rest, hrest⟩ := directory_prefix importer
  unfold Path.join
  rw [if_neg head?_slashed]
  cases hd : Path.directory importer with
  | nil => simpa using head?_slashed
  | cons c dir =>
    rw [hd] at hrest
    have first : c ≠ '/' := by simpa [← hrest] using relative
    split
    · simpa using first
    · simpa using first

/-- **The base of a specifier** in a file without a root is written from settled components, unless
the specifier starts at the root of the sources. -/
theorem baseChars_eq_written (relative : importer.head? ≠ some '/')
    (unmarked : rootMarker.isPrefixOf spec = false) :
    ∃ cs, baseChars importer spec = written cs ∧ Settled cs ∧ ∀ c ∈ cs, '/' ∉ c := by
  refine ⟨Path.walk false (Path.components (Path.join (Path.directory importer) (slashed spec))),
    ?_, Path.settled_walk, fun c hc => ?_⟩
  · rw [baseChars, unmarked, if_neg Bool.false_ne_true,
      Path.normalize_eq_written (head?_join_directory relative)]
  · exact Path.slash_not_mem_of_mem_components (Path.mem_of_mem_walk hc)

/-- Where three characters stand a component leads down. -/
theorem leads_down_of_length {c : List Char} (long : 3 ≤ c.length) :
    Path.isIdle c = false ∧ c ≠ Path.above := by
  match c, long with
  | a :: b :: d :: c, _ => simp [Path.isIdle, Path.here, Path.above]

/-- **Candidates are normal forms**, but for those of the root directory. -/
theorem normalize_written_append (settled : Settled cs) (plain : ∀ c ∈ cs, '/' ∉ c)
    (more : cs ≠ []) (ending : e ∈ endings) : normalize (written cs ++ e) = written cs ++ e := by
  have suffix_long : ∀ e ∈ suffixes, 3 ≤ e.length ∧ '/' ∉ e := by decide
  have index_long : ∀ i ∈ indexNames, 3 ≤ i.length ∧ '/' ∉ i := by decide
  rw [Path.written_of_ne_nil more]
  rcases List.mem_cons.mp ending with rfl | ending
  · rw [List.append_nil, ← Path.written_of_ne_nil more]
    exact Path.normalize_written settled plain
  rcases List.mem_append.mp ending with suffix | index
  · -- a suffix makes the last component longer, and then it leads down
    obtain ⟨long, noSlash⟩ := suffix_long e suffix
    obtain ⟨front, last, rfl⟩ := (List.eq_nil_or_concat cs).resolve_left more
    rw [List.concat_eq_append] at settled plain ⊢
    obtain ⟨leads, down⟩ := leads_down_of_length (c := last ++ e) (by simp; omega)
    rw [Path.joined_concat_append, ← Path.written_of_ne_nil (by simp)]
    refine Path.normalize_written (Path.settled_concat_iff.mpr ⟨?_, leads, fun up => ?_⟩) ?_
    · exact (Path.settled_concat_iff.mp settled).1
    · exact absurd up down
    · refine List.forall_mem_append.mpr ⟨fun c hc => plain c (by simp [hc]), ?_⟩
      simpa [noSlash] using plain last (by simp)
  · -- an index file is one component more
    obtain ⟨i, hi, rfl⟩ := List.mem_map.mp index
    obtain ⟨long, noSlash⟩ := index_long i hi
    obtain ⟨leads, down⟩ := leads_down_of_length long
    rw [← Path.joined_concat more, ← Path.written_of_ne_nil (by simp)]
    refine Path.normalize_written (Path.settled_concat_iff.mpr ⟨settled, leads, fun up => ?_⟩) ?_
    · exact absurd up down
    · exact List.forall_mem_append.mpr ⟨plain, by simpa using noSlash⟩

end Bases

/-! ### Targets and denotations -/

section Targets

variable {known : String → Bool} {importer spec : String}

/-- **Away from the root directory** the candidates are their own normal forms. -/
theorem map_normal_candidates (relative : importer.toList.head? ≠ some '/')
    (unmarked : rootMarker.isPrefixOf spec.toList = false) (away : base importer spec ≠ ".") :
    (candidates importer spec).map normal = candidates importer spec := by
  obtain ⟨cs, hb, settled, plain⟩ := baseChars_eq_written relative unmarked
  have more : cs ≠ [] := by
    rintro rfl
    exact away (by rw [base, hb]; rfl)
  rw [candidates, List.map_map]
  refine List.map_congr_left fun e ending => ?_
  simp only [Function.comp_apply, normal, String.toList_ofList, hb]
  rw [normalize_written_append settled plain more ending]

/-- **At the root directory** the index files are tried as files in `.`. -/
theorem candidates_of_atRoot (atRoot : base importer spec = ".") :
    candidates importer spec = besideRoot ++ rootIndexes.map ("./" ++ ·) := by
  have chars : baseChars importer.toList spec.toList = here := String.ofList_inj.mp atRoot
  rw [candidates, chars]
  decide +kernel

/-- The normal forms of these candidates are the index files themselves. -/
theorem map_normal_candidates_of_atRoot (atRoot : base importer spec = ".") :
    (candidates importer spec).map normal = besideRoot ++ rootIndexes := by
  rw [candidates_of_atRoot atRoot]
  decide +kernel

/-- The candidates for index files of the root directory are no normal forms. -/
theorem normal_ne_self : ∀ path ∈ rootIndexes, normal ("./" ++ path) ≠ "./" ++ path := by
  decide +kernel

/-- At the root directory no index file is found among known normal forms. -/
theorem target?_of_atRoot (atRoot : base importer spec = ".")
    (normalized : ∀ path, known path = true → normal path = path) :
    target? known importer spec = besideRoot.find? known := by
  have unknown : (rootIndexes.map ("./" ++ ·)).find? known = none := by
    refine List.find?_eq_none.mpr fun path hp found => ?_
    obtain ⟨index, hi, rfl⟩ := List.mem_map.mp hp
    exact normal_ne_self index hi (normalized _ found)
  rw [target?, candidates_of_atRoot atRoot, List.find?_append, unknown, Option.or_none]

/-- **A missed index file** is what the specifier denotes, and it has no target. -/
theorem MissesRoot.target?_eq_none (misses : MissesRoot known importer spec)
    (normalized : ∀ path, known path = true → normal path = path) :
    target? known importer spec = none ∧
      denoted? known importer spec = rootIndexes.find? known ∧
      (rootIndexes.find? known).isSome := by
  have other : besideRoot.find? known = none :=
    List.find?_eq_none.mpr fun path hp => by simp [misses.noOther path hp]
  refine ⟨(target?_of_atRoot misses.atRoot normalized).trans other, ?_, ?_⟩
  · rw [denoted?, map_normal_candidates_of_atRoot misses.atRoot, List.find?_append, other,
      Option.none_or]
  · exact List.find?_isSome.mpr misses.index

/-- Where no index file is missed the target is what the specifier denotes. -/
theorem target?_eq_denoted? (relative : importer.toList.head? ≠ some '/')
    (unmarked : rootMarker.isPrefixOf spec.toList = false)
    (normalized : ∀ path, known path = true → normal path = path)
    (found : ¬MissesRoot known importer spec) :
    target? known importer spec = denoted? known importer spec := by
  by_cases atRoot : base importer spec = "."
  · rw [target?_of_atRoot atRoot normalized, denoted?, map_normal_candidates_of_atRoot atRoot,
      List.find?_append]
    cases other : besideRoot.find? known with
    | some path => rfl
    | none =>
      rw [Option.none_or, eq_comm, List.find?_eq_none]
      intro path index isKnown
      refine found ⟨atRoot, fun path hp => ?_, path, index, isKnown⟩
      simpa using List.find?_eq_none.mp other path hp
  · rw [target?, denoted?, map_normal_candidates relative unmarked atRoot]

/-- **A specifier resolves to what it denotes, unless that is an index file of the root directory**,
which is missed: there the specifier has no target, and it denotes the first of the index files that
is known. The known paths are normal forms, the importing file is given from the top of the tree,
and the specifier does not start at the root of the sources. -/
theorem target?_eq_denoted?_iff (known : String → Bool) (importer spec : String)
    (relative : importer.toList.head? ≠ some '/')
    (unmarked : rootMarker.isPrefixOf spec.toList = false)
    (normalized : ∀ path, known path = true → normal path = path) :
    (target? known importer spec = denoted? known importer spec ↔
      ¬MissesRoot known importer spec) ∧
    (MissesRoot known importer spec →
      target? known importer spec = none ∧
        denoted? known importer spec = rootIndexes.find? known ∧
        (rootIndexes.find? known).isSome) := by
  refine ⟨⟨fun same misses => ?_, target?_eq_denoted? relative unmarked normalized⟩,
    fun misses => misses.target?_eq_none normalized⟩
  obtain ⟨none, first, some⟩ := misses.target?_eq_none normalized
  rw [← first, ← same, none] at some
  cases some

/-- The index of a directory inside of the tree is found, and that of its root is not. -/
theorem target?_eq_denoted?_iff_indexes :
    target? (· == "src/c/index.ts") "src/a.js" "./c" = some "src/c/index.ts" ∧
      target? (· == "src/c/index.ts") "src/a.js" "./c" =
        denoted? (· == "src/c/index.ts") "src/a.js" "./c" ∧
      target? (· == "index.js") "src/a.js" ".." = none ∧
      denoted? (· == "index.js") "src/a.js" ".." = some "index.js" := by
  have inside := target?_eq_denoted?_iff (· == "src/c/index.ts") "src/a.js" "./c" (by decide)
    (by decide) (by rintro _ h; obtain rfl := eq_of_beq h; decide +kernel)
  have root := target?_eq_denoted?_iff (· == "index.js") "src/a.js" ".." (by decide)
    (by decide) (by rintro _ h; obtain rfl := eq_of_beq h; decide +kernel)
  have away : ¬MissesRoot (· == "src/c/index.ts") "src/a.js" "./c" := fun misses =>
    absurd misses.atRoot (by decide +kernel)
  have misses : MissesRoot (· == "index.js") "src/a.js" ".." :=
    ⟨by decide +kernel, by decide +kernel, "index.js", by decide +kernel, rfl⟩
  obtain ⟨none, first, -⟩ := root.2 misses
  exact ⟨by decide +kernel, inside.1.mpr away, none, first.trans (by decide +kernel)⟩

/-- **Not every specifier resolves to what it denotes**: `./` in a file at the root has no target
where only the index file of the root is known. -/
theorem not_forall_target?_eq_denoted? :
    ¬∀ (known : String → Bool) (importer spec : String),
      importer.toList.head? ≠ some '/' → rootMarker.isPrefixOf spec.toList = false →
        (∀ path, known path = true → normal path = path) →
          target? known importer spec = denoted? known importer spec := by
  intro same
  have none : target? (· == "index.js") "main.js" "./" = none := by decide +kernel
  have some : denoted? (· == "index.js") "main.js" "./" = some "index.js" := by decide +kernel
  have both := same (· == "index.js") "main.js" "./" (by decide) (by decide)
    (by rintro _ h; obtain rfl := eq_of_beq h; decide +kernel)
  rw [none, some] at both
  cases both

end Targets

end Resolution

end DepGraph

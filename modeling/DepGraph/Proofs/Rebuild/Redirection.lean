import DepGraph.Proofs.Rebuild.Contents

/-!
# One file more

A specifier resolves to the first of its candidates that is known. When one more path is known, it
resolves to the same path as before or to the new one (`DepGraph.Resolution.target?_of_oneMore`),
and so one more file does nothing to the graph of some files but **redirect** edges to itself
(`DepGraph.Graph.Redirects`): a new edge has the new file at one of its ends, and an edge that is
gone has left an edge from the same file to the new one in its place. No edge goes over to a third
file.

The new file may stand anywhere among the others.
-/

namespace DepGraph

/-! ### Resolving with one more path -/

namespace Resolution

variable {known more : String → Bool} {new importer spec : String}

/-- When one more value has a property, the first member that has it is the same as before, or that
value. -/
theorem find?_of_oneMore (h : ∀ p, more p = true ↔ p = new ∨ known p = true) (ps : List String) :
    ps.find? more = ps.find? known ∨ ps.find? more = some new := by
  induction ps with
  | nil => exact Or.inl rfl
  | cons p ps ih =>
    by_cases hp : p = new
    · exact Or.inr (by simp [hp, (h new).mpr (Or.inl rfl)])
    · have same : more p = known p := Bool.eq_iff_iff.mpr (by simp [h, hp])
      cases hk : known p with
      | true => exact Or.inl (by simp [same, hk])
      | false => simpa [same, hk] using ih

/-- **A specifier resolves as before or to the new path** when one more path is known. -/
theorem target?_of_oneMore (h : ∀ p, more p = true ↔ p = new ∨ known p = true) :
    target? more importer spec = target? known importer spec ∨
      target? more importer spec = some new :=
  find?_of_oneMore h _

end Resolution

/-! ### Redirections -/

/-- A graph **redirects** another one to a path if its edges are those of the other one, but for
some that begin or end at the path. -/
structure Graph.Redirects (path : String) (old new : Graph) : Prop where
  /-- An edge that is new begins or ends at the path. -/
  kept : ∀ d ∈ new.edges, d.source ≠ path → d.target ≠ path → d ∈ old.edges
  /-- Where an edge is gone there is one to the path. -/
  redirected : ∀ d ∈ old.edges, d ∈ new.edges ∨ ⟨d.source, path⟩ ∈ new.edges

namespace Rebuild

section OneMore

variable {n : Int} {read : FileReader} {before after : List SourceFile} {file : SourceFile}
variable {p q : ReadFile} {told : List Event}

/-- One more file makes its own path known. -/
theorem knows_oneMore (path : String) :
    knows (before ++ file :: after) path = true ↔
      path = file.path ∨ knows (before ++ after) path = true := by
  simp only [knows, List.contains_iff_mem, List.map_append, List.map_cons, List.mem_append,
    List.mem_cons]
  exact or_left_comm

/-- A specifier resolves as before or to the new file when there is one more. -/
theorem target?_oneMore {importer spec : String} :
    Resolution.target? (knows (before ++ file :: after)) importer spec =
        Resolution.target? (knows (before ++ after)) importer spec ∨
      Resolution.target? (knows (before ++ file :: after)) importer spec = some file.path :=
  Resolution.target?_of_oneMore knows_oneMore

/-- One more file is parsed besides the others. -/
theorem mem_parsedFiles_oneMore (parsed : read file = .ok (some p, told)) :
    q ∈ parsedFiles read (before ++ file :: after) ↔
      q = p ∨ q ∈ parsedFiles read (before ++ after) := by
  simp only [parsedFiles, List.filterMap_append, List.filterMap_cons, parsed, List.mem_append,
    List.mem_cons]
  exact or_left_comm

/-- **One more file redirects edges to itself** in the graph of some files. -/
theorem redirects_ofFiles (parsed : read file = .ok (some p, told)) (own : p.path = file.path) :
    (Graph.ofFiles n read (before ++ after)).Redirects file.path
      (Graph.ofFiles n read (before ++ file :: after)) where
  kept := by
    intro d hd source target
    obtain ⟨⟨q, hq, hqs, s, hs, ht⟩, r, hr, hrt⟩ := mem_edges_ofFiles.mp hd
    -- neither end is the new file, so that both were parsed before
    have old {q : ReadFile} (hq : q ∈ parsedFiles read (before ++ file :: after))
        (other : q.path ≠ file.path) : q ∈ parsedFiles read (before ++ after) := by
      refine ((mem_parsedFiles_oneMore parsed).mp hq).resolve_left ?_
      rintro rfl
      exact other own
    have resolved : Resolution.target? (knows (before ++ after)) q.path s = some d.target := by
      rcases target?_oneMore with same | new
      · exact same.symm.trans ht
      · exact absurd (Option.some.inj (ht.symm.trans new)) target
    exact mem_edges_ofFiles.mpr
      ⟨⟨q, old hq (hqs ▸ source), hqs, s, hs, resolved⟩, r, old hr (hrt ▸ target), hrt⟩
  redirected := by
    intro d hd
    obtain ⟨⟨q, hq, hqs, s, hs, ht⟩, r, hr, hrt⟩ := mem_edges_ofFiles.mp hd
    have still {q : ReadFile} (hq : q ∈ parsedFiles read (before ++ after)) :
        q ∈ parsedFiles read (before ++ file :: after) :=
      (mem_parsedFiles_oneMore parsed).mpr (Or.inr hq)
    rcases target?_oneMore with same | new
    · exact Or.inl (mem_edges_ofFiles.mpr
        ⟨⟨q, still hq, hqs, s, hs, same.trans ht⟩, r, still hr, hrt⟩)
    · have there : p ∈ parsedFiles read (before ++ file :: after) :=
        (mem_parsedFiles_oneMore parsed).mpr (Or.inl rfl)
      exact Or.inr (mem_edges_ofFiles.mpr ⟨⟨q, still hq, hqs, s, hs, new⟩, p, there, own⟩)

end OneMore

/-- **Rebuilding from one more file redirects edges to that file**, and no specifier goes over to a
third one. -/
theorem redirects_rebuild (failures failures' : Failures) (n : Int) (read : FileReader)
    (before after : List SourceFile) (file : SourceFile) (p : ReadFile) (told : List Event)
    (run run' : Option Run) (store store' : Store) (stats stats' : RebuildSummary)
    (parsed : read file = .ok (some p, told)) (own : p.path = file.path)
    (returned : (rebuild failures n read (before ++ after) run store).outcome = .ok stats)
    (returned' :
      (rebuild failures' n read (before ++ file :: after) run' store').outcome = .ok stats') :
    (rebuild failures n read (before ++ after) run store).store.graph.Redirects file.path
        (rebuild failures' n read (before ++ file :: after) run' store').store.graph ∧
      ∀ q ∈ parsedFiles read (before ++ after), ∀ s ∈ q.specifiers,
        Resolution.target? (knows (before ++ file :: after)) q.path s =
            Resolution.target? (knows (before ++ after)) q.path s ∨
          Resolution.target? (knows (before ++ file :: after)) q.path s = some file.path := by
  refine ⟨?_, fun _ _ _ _ => target?_oneMore⟩
  rw [(returned_of_outcome_ok returned).1, (returned_of_outcome_ok returned').1]
  exact redirects_ofFiles parsed own

/-- Some files with nothing in them. -/
def emptyFiles (paths : List String) : List SourceFile :=
  paths.map fun path => { path, place := "/" ++ path, bytes := some [] }

/-- The file `a.js` names `b` and `c`, and no other file names anything. -/
def namingReader : FileReader := fun file =>
  .ok (some
    { path := file.path
      content := []
      specifiers := if file.path = "a.js" then ["./b", "./c"] else [] }, [])

/-- Where there was only an index of `b`, a new file `b.js` takes over its edge, and the other one
stays. -/
theorem redirects_rebuild_newFile :
    (rebuild {} 200 namingReader (emptyFiles ["a.js"] ++ emptyFiles ["b/index.js", "c.js"]) none
        {}).store.graph.edges = [⟨"a.js", "b/index.js"⟩, ⟨"a.js", "c.js"⟩] ∧
      (rebuild {} 200 namingReader
        (emptyFiles ["a.js"] ++ ⟨"b.js", "/b.js", some []⟩ :: emptyFiles ["b/index.js", "c.js"]) none
        {}).store.graph.edges = [⟨"a.js", "b.js"⟩, ⟨"a.js", "c.js"⟩] ∧
      (rebuild {} 200 namingReader (emptyFiles ["a.js"] ++ emptyFiles ["b/index.js", "c.js"]) none
        {}).store.graph.Redirects "b.js"
        (rebuild {} 200 namingReader
          (emptyFiles ["a.js"] ++ ⟨"b.js", "/b.js", some []⟩ :: emptyFiles ["b/index.js", "c.js"])
          none {}).store.graph := by
  refine ⟨by rfl, by rfl, ?_⟩
  exact (redirects_rebuild {} {} 200 namingReader (emptyFiles ["a.js"])
    (emptyFiles ["b/index.js", "c.js"]) ⟨"b.js", "/b.js", some []⟩ _ [] none none {} {}
    ⟨3, 3, 2, []⟩ ⟨4, 4, 2, []⟩ rfl rfl (by rfl) (by rfl)).1

end Rebuild

end DepGraph

import DepGraph.Proofs.FirstOccurrence
import DepGraph.Snapshot
import Mathlib.Data.List.Forall2
import Mathlib.Data.List.Infix
import Mathlib.Data.List.Nodup
import Mathlib.Data.List.Perm.Subperm
import Mathlib.Data.Option.Basic

/-!
# Snapshots of a window of rows

The graph is read through a **window**: only so many of its rows are looked at. What a snapshot of
some rows is meant to show is said row by row (`DepGraph.Snapshot.Shows`): the paths of the nodes
that the rows mention, each once and in the order in which they are first mentioned, and a link for
each row with an edge, in the order of the rows and with both its ends among the nodes. These
properties leave no choice (`DepGraph.Snapshot.Shows.unique`).

The rows have to be **coherent** (`DepGraph.Coherent`), as the store tells nodes apart by their
identities and a snapshot shows their paths. Then a snapshot never fails and shows its rows
(`DepGraph.Snapshot.shows_ofRows`), and a wider window only adds nodes and links at the end
(`DepGraph.Snapshot.shows_take`).

What carries the proofs is that a snapshot can be written down in one piece
(`DepGraph.Snapshot.ofRows_of_named`): its nodes come of noting the mentioned ones one by one, and
by their identities they are the first occurrences among these
(`DepGraph.Snapshot.identities_noted`).
-/

namespace DepGraph

/-! ### What rows mention -/

namespace Row

/-- The nodes that a row **mentions**: its own one, and after it the one that its edge leads to.
Without an edge nothing leads to another node, and none is mentioned. -/
def mentions (row : Row) : List RowNode :=
  match row.link, row.neighbor with
  | some _, some m => [row.node, m]
  | _, _ => [row.node]

/-- Whether a row has an **edge**, with the node that it leads to. -/
def isLinked (row : Row) : Bool := row.link.isSome && row.neighbor.isSome

/-- The type that a snapshot shows for the type of an edge. -/
def shownType (type : Json) : Json := if isVoid type then .ofString dependsOn else type

/-- The **link** of a row, if it has an edge between nodes with paths. -/
def link? (row : Row) : Option Link := do
  let type ← row.link
  let neighbor ← row.neighbor
  let source ← row.node.path
  let target ← neighbor.path
  return { source, target, type := shownType type }

theorem length_mentions_le (row : Row) : row.mentions.length ≤ 2 := by
  unfold mentions
  split
  · exact Nat.le_refl 2
  · exact Nat.le_succ 1

theorem length_flatMap_mentions_le (rows : List Row) :
    (rows.flatMap mentions).length ≤ 2 * rows.length := by
  induction rows with
  | nil => exact Nat.le_refl 0
  | cons row rows ih =>
    have here := length_mentions_le row
    rw [List.flatMap_cons, List.length_append, List.length_cons]
    omega

theorem node_mem_mentions (row : Row) : row.node ∈ row.mentions := by
  unfold mentions
  split
  · exact List.mem_cons_self
  · exact List.mem_singleton.mpr rfl

/-- A row with an edge mentions two nodes. -/
theorem mentions_of_link {row : Row} {type : Json} {m : RowNode} (hl : row.link = some type)
    (hm : row.neighbor = some m) : row.mentions = [row.node, m] := by
  simp [mentions, hl, hm]

end Row

/-- Nodes are **named** if each of them has a path. -/
def Named (nodes : List RowNode) : Prop := ∀ a ∈ nodes, ∃ p, a.path = some p

/-- Nodes are **coherent** if each of them has a path, and their identities tell the same nodes
apart as their paths. -/
structure Coherent (nodes : List RowNode) : Prop where
  /-- Each has a path. -/
  named : Named nodes
  /-- Equal identities carry equal paths, and distinct ones carry distinct paths. -/
  identity_eq_iff : ∀ a ∈ nodes, ∀ b ∈ nodes, a.identity = b.identity ↔ a.path = b.path

theorem Coherent.mono {nodes more : List RowNode} (h : Coherent more) (sub : nodes ⊆ more) :
    Coherent nodes where
  named a ha := h.named a (sub ha)
  identity_eq_iff a ha b hb := h.identity_eq_iff a (sub ha) b (sub hb)

/-- A path is **met** among some nodes if one of them has it. -/
def Met (nodes : List RowNode) (p : Json) : Prop := ∃ a ∈ nodes, a.path = some p

/-- One path is met **before** another: whoever has met the other one has met it. -/
def MetBefore (nodes : List RowNode) (p q : Json) : Prop :=
  ∀ front, front <+: nodes → Met front q → Met front p

/-- Two distinct paths cannot each be met before the other. -/
theorem eq_of_metBefore {nodes : List RowNode} {p q : Json} (met : Met nodes p)
    (hpq : MetBefore nodes p q) (hqp : MetBefore nodes q p) : p = q := by
  induction nodes with
  | nil =>
    obtain ⟨a, ha, -⟩ := met
    cases ha
  | cons a nodes ih =>
    -- the first node that has either path has to have them both
    have first : [a] <+: a :: nodes := ⟨nodes, rfl⟩
    have only {r : Json} (h : Met [a] r) : a.path = some r := by
      obtain ⟨b, hb, path⟩ := h
      exact List.mem_singleton.mp hb ▸ path
    by_cases hp : a.path = some p
    · have hq := only (hqp [a] first ⟨a, List.mem_singleton.mpr rfl, hp⟩)
      exact Option.some.inj (hp.symm.trans hq)
    by_cases hq : a.path = some q
    · exact absurd (only (hpq [a] first ⟨a, List.mem_singleton.mpr rfl, hq⟩)) hp
    -- otherwise it has neither, and may be left out
    have skip {r : Json} {front : List RowNode} (h : a.path ≠ some r) (hm : Met (a :: front) r) :
        Met front r := by
      obtain ⟨b, hb, path⟩ := hm
      rcases List.mem_cons.mp hb with rfl | hb
      · exact absurd path h
      · exact ⟨b, hb, path⟩
    have add {r : Json} {front : List RowNode} (hm : Met front r) : Met (a :: front) r := by
      obtain ⟨b, hb, path⟩ := hm
      exact ⟨b, List.mem_cons_of_mem _ hb, path⟩
    refine ih (skip hp met) (fun front hf hm => ?_) (fun front hf hm => ?_)
    · exact skip hp (hpq (a :: front) (List.cons_prefix_cons.mpr ⟨rfl, hf⟩) (add hm))
    · exact skip hq (hqp (a :: front) (List.cons_prefix_cons.mpr ⟨rfl, hf⟩) (add hm))

/-! ### What a snapshot is meant to show -/

/-- A link **tells** of a row: it leads from the path of its node to the path of its neighbor, and
has the type of its edge. -/
structure Link.Tells (row : Row) (l : Link) : Prop where
  /-- It leaves the path of the node. -/
  source : row.node.path = some l.source
  /-- It leads to the path of the neighbor. -/
  target : row.neighbor.bind (·.path) = some l.target
  /-- Its type is that of the edge. -/
  type : row.link.map Row.shownType = some l.type

namespace Snapshot

/-- The paths of the nodes of a snapshot, as they are shown. -/
def paths (s : Snapshot) : List Json := s.nodes.map (·.2)

/-- A snapshot **shows** some rows if it has their nodes and links and no others. -/
structure Shows (rows : List Row) (s : Snapshot) : Prop where
  /-- No path is there twice. -/
  nodup : s.paths.Nodup
  /-- The paths are those of the nodes that are mentioned. -/
  mem_paths : ∀ p, p ∈ s.paths ↔ Met (rows.flatMap Row.mentions) p
  /-- The paths come in the order in which they are first mentioned. -/
  order : s.paths.Pairwise (MetBefore (rows.flatMap Row.mentions))
  /-- The links tell of the rows with an edge, one of each, in order. -/
  links : List.Forall₂ Link.Tells (rows.filter Row.isLinked) s.links
  /-- A link leads from a node to a node. -/
  ends : ∀ l ∈ s.links, l.source ∈ s.paths ∧ l.target ∈ s.paths

/-- No two links tell of the same row. -/
theorem rightUnique_tells : Relator.RightUnique Link.Tells := by
  rintro row ⟨source, target, type⟩ ⟨source', target', type'⟩ h h'
  obtain rfl := Option.some.inj (h.source.symm.trans h'.source)
  obtain rfl := Option.some.inj (h.target.symm.trans h'.target)
  obtain rfl := Option.some.inj (h.type.symm.trans h'.type)
  rfl

/-- **Only one snapshot shows some rows**, but for the identities, which are not shown. -/
theorem Shows.unique {rows : List Row} {s t : Snapshot} (hs : s.Shows rows) (ht : t.Shows rows) :
    s.paths = t.paths ∧ s.links = t.links := by
  have perm : s.paths.Perm t.paths :=
    (List.perm_ext_iff_of_nodup hs.nodup ht.nodup).mpr fun p =>
      (hs.mem_paths p).trans (ht.mem_paths p).symm
  refine ⟨perm.eq_of_pairwise (fun p q hp _ hpq hqp => ?_) hs.order ht.order, ?_⟩
  · exact eq_of_metBefore ((hs.mem_paths p).mp hp) hpq hqp
  · exact rightUnique_tells.forall₂ hs.links ht.links

/-- **A snapshot is no larger than its rows allow**: a row brings one link and two nodes at most. -/
theorem Shows.length_le {rows : List Row} {s : Snapshot} (h : s.Shows rows) :
    s.links.length ≤ rows.length ∧ s.nodes.length ≤ 2 * rows.length := by
  constructor
  · rw [← h.links.length_eq]
    exact List.length_filter_le _ _
  · -- distinct paths, each of which a mentioned node has, are no more than these nodes
    have distinct : (s.paths.map some).Nodup := h.nodup.map (Option.some_injective _)
    have met : s.paths.map some ⊆ (rows.flatMap Row.mentions).map (·.path) := by
      intro o ho
      obtain ⟨p, hp, rfl⟩ := List.mem_map.mp ho
      obtain ⟨a, ha, path⟩ := (h.mem_paths p).mp hp
      exact List.mem_map.mpr ⟨a, ha, path⟩
    have fewer := (List.subperm_of_subset distinct met).length_le
    have bound := Row.length_flatMap_mentions_le rows
    simp only [paths, List.length_map] at fewer
    omega

/-! ### Noting nodes -/

/-- The nodes of a snapshot with one more **noted**, if it is new. -/
def note (nodes : List (String × Json)) (a : RowNode) : List (String × Json) :=
  if nodes.any (·.1 == a.identity) then nodes else nodes ++ a.path.toList.map (a.identity, ·)

/-- The nodes that are **noted** of some nodes, one by one. -/
def noted (as : List RowNode) : List (String × Json) := as.foldl note []

section Noted

variable {nodes : List (String × Json)} {as bs : List RowNode} {a : RowNode}

/-- A node with a path is added by noting it. -/
theorem addNode_of_path {p : Json} (h : a.path = some p) :
    addNode nodes a = .ok (note nodes a) := by
  unfold addNode note
  split
  · rfl
  · simp [pathOf, h, bind, Except.bind, pure, Except.pure]

theorem noted_concat : noted (as ++ [a]) = note (noted as) a := List.foldl_concat note [] a as

/-- Noting more nodes only adds to the end. -/
theorem prefix_foldl_note : nodes <+: as.foldl note nodes := by
  induction as generalizing nodes with
  | nil => exact List.prefix_rfl
  | cons a as ih =>
    have one : nodes <+: note nodes a := by
      unfold note
      split
      · exact List.prefix_rfl
      · exact List.prefix_append _ _
    exact one.trans ih

/-- **Whoever notes more nodes has noted the first ones already.** -/
theorem noted_prefix (h : as <+: bs) : noted as <+: noted bs := by
  obtain ⟨more, rfl⟩ := h
  rw [noted, noted, List.foldl_append]
  exact prefix_foldl_note

/-- What is noted is one of the nodes. -/
theorem exists_of_mem_noted {n : String × Json} (h : n ∈ noted as) :
    ∃ a ∈ as, a.identity = n.1 ∧ a.path = some n.2 := by
  induction as using List.reverseRecOn with
  | nil => cases h
  | append_singleton as a ih =>
    rw [noted_concat, note] at h
    have earlier (h : n ∈ noted as) : ∃ b ∈ as ++ [a], b.identity = n.1 ∧ b.path = some n.2 := by
      obtain ⟨b, hb, same⟩ := ih h
      exact ⟨b, List.mem_append_left _ hb, same⟩
    split at h
    · exact earlier h
    · rcases List.mem_append.mp h with h | h
      · exact earlier h
      · obtain ⟨p, hp, rfl⟩ := List.mem_map.mp h
        exact ⟨a, by simp, rfl, Option.mem_toList.mp hp⟩

/-- **By their identities the noted nodes are the first occurrences** among all of them. -/
theorem identities_noted (named : Named as) :
    (noted as).map (·.1) = (as.map (·.identity)).eraseDups := by
  induction as using List.reverseRecOn with
  | nil => rfl
  | append_singleton as a ih =>
    have before := ih fun b hb => named b (List.mem_append_left _ hb)
    obtain ⟨p, path⟩ := named a (by simp)
    -- whether the last node is new is asked of the noted ones, which have the same identities
    have old : (noted as).any (·.1 == a.identity) = (as.map (·.identity)).elem a.identity := by
      rw [Bool.eq_iff_iff, List.elem_iff, ← List.mem_eraseDups, ← before]
      simp
    rw [noted_concat, note, old, List.map_append, List.map_singleton, eraseDups_concat, ← before]
    split
    · rfl
    · simp [path]

/-- A node of some coherent ones is noted, by its identity and its path. -/
theorem mem_noted (coherent : Coherent as) (ha : a ∈ as) {p : Json} (path : a.path = some p) :
    (a.identity, p) ∈ noted as := by
  have occurs : a.identity ∈ (noted as).map (·.1) := by
    rw [identities_noted coherent.named, List.mem_eraseDups]
    exact List.mem_map_of_mem ha
  obtain ⟨n, hn, same⟩ := List.mem_map.mp occurs
  obtain ⟨b, hb, identity, named⟩ := exists_of_mem_noted hn
  have equal : b.path = a.path :=
    (coherent.identity_eq_iff b hb a ha).mp (identity.trans same)
  have shown : n.2 = p := Option.some.inj (named.symm.trans (equal.trans path))
  rw [← same, ← shown]
  exact hn

/-- **The paths that are noted** are those that are met. -/
theorem mem_paths_noted (coherent : Coherent as) {p : Json} :
    p ∈ (noted as).map (·.2) ↔ Met as p := by
  constructor
  · intro h
    obtain ⟨n, hn, rfl⟩ := List.mem_map.mp h
    obtain ⟨a, ha, -, path⟩ := exists_of_mem_noted hn
    exact ⟨a, ha, path⟩
  · rintro ⟨a, ha, path⟩
    exact List.mem_map.mpr ⟨_, mem_noted coherent ha path, rfl⟩

/-- **No path is noted twice.** -/
theorem nodup_paths_noted (coherent : Coherent as) : ((noted as).map (·.2)).Nodup := by
  have apart : ((noted as).map (·.1)).Nodup := by
    rw [identities_noted coherent.named]
    exact nodup_eraseDups _
  refine List.pairwise_map.mpr ((List.pairwise_map.mp apart).imp_of_mem ?_)
  intro m n hm hn different same
  obtain ⟨a, ha, hai, hap⟩ := exists_of_mem_noted hm
  obtain ⟨b, hb, hbi, hbp⟩ := exists_of_mem_noted hn
  have equal := (coherent.identity_eq_iff a ha b hb).mpr (by rw [hap, hbp, same])
  exact different (by rw [← hai, ← hbi, equal])

/-- **Paths are noted in the order in which they are first met.** -/
theorem pairwise_metBefore_noted (coherent : Coherent as) :
    ((noted as).map (·.2)).Pairwise (MetBefore as) := by
  have order := pairwise_idxOf_eraseDups (as.map (·.identity))
  rw [← identities_noted coherent.named] at order
  refine List.pairwise_map.mpr ((List.pairwise_map.mp order).imp_of_mem ?_)
  rintro m n hm hn earlier front hfront ⟨b, hb, hbp⟩
  obtain ⟨c, hc, hci, hcp⟩ := exists_of_mem_noted hn
  obtain ⟨a, ha, hai, hap⟩ := exists_of_mem_noted hm
  -- the later path is met in front by the identity of its node, and so is the earlier one
  have identities : front.map (·.identity) <+: as.map (·.identity) := hfront.map _
  have later : n.1 ∈ front.map (·.identity) := by
    have equal := (coherent.identity_eq_iff b (hfront.subset hb) c hc).mpr (hbp.trans hcp.symm)
    exact List.mem_map.mpr ⟨b, hb, equal.trans hci⟩
  have sooner : m.1 ∈ front.map (·.identity) := by
    rw [identities.mem_iff_idxOf_lt_length] at later ⊢
    exact Nat.lt_trans earlier later
  obtain ⟨d, hd, hdi⟩ := List.mem_map.mp sooner
  have equal := (coherent.identity_eq_iff d (hfront.subset hd) a ha).mp (hdi.trans hai.symm)
  exact ⟨d, hd, equal.trans hap⟩

end Noted

/-! ### Snapshots in one piece -/

section OfRows

variable {rows : List Row} {row : Row} {s : Snapshot}

/-- What **one row** adds to a snapshot: the nodes that it mentions, and its link. -/
theorem addRow_of_named (named : Named row.mentions) :
    s.addRow row =
      .ok { nodes := row.mentions.foldl note s.nodes, links := s.links ++ row.link?.toList } := by
  obtain ⟨node, link, neighbor⟩ := row
  obtain ⟨p, path⟩ : ∃ p, node.path = some p := named node (Row.node_mem_mentions _)
  match link, neighbor with
  | none, _ =>
    simp [addRow, addNode_of_path path, Row.mentions, Row.link?, bind, Except.bind, pure,
      Except.pure]
  | some type, none =>
    simp [addRow, addNode_of_path path, Row.mentions, Row.link?, bind, Except.bind, pure,
      Except.pure]
  | some type, some m =>
    obtain ⟨q, target⟩ := named m (by simp [Row.mentions])
    simp [addRow, addNode_of_path path, addNode_of_path target, pathOf, path, target, Row.mentions,
      Row.link?, Row.shownType, bind, Except.bind, pure, Except.pure]

/-- What **some rows** add to a snapshot, one after the other. -/
theorem foldlM_addRow_of_named (named : Named (rows.flatMap Row.mentions)) :
    rows.foldlM addRow s =
      .ok { nodes := (rows.flatMap Row.mentions).foldl note s.nodes
            links := s.links ++ rows.filterMap Row.link? } := by
  induction rows generalizing s with
  | nil => simp [pure, Except.pure]
  | cons row rows ih =>
    have here : Named row.mentions := fun a ha => named a (by simp [ha])
    have rest : Named (rows.flatMap Row.mentions) := fun a ha =>
      named a (List.mem_append_right _ ha)
    rw [List.foldlM_cons, addRow_of_named here]
    refine (ih rest).trans ?_
    rw [List.flatMap_cons, List.foldl_append, List.append_assoc]
    cases h : row.link? <;> simp [h]

/-- **A snapshot in one piece**: the nodes that are noted of the mentioned ones, and the links of
the rows. -/
theorem ofRows_of_named (named : Named (rows.flatMap Row.mentions)) :
    ofRows rows = .ok ⟨noted (rows.flatMap Row.mentions), rows.filterMap Row.link?⟩ :=
  foldlM_addRow_of_named named

/-- The snapshot of records is that of the rows that they are. -/
theorem ofRecords_eq {records : List Json}
    (h : List.Forall₂ (fun j row => Row.ofRecord j = .ok row) records rows) :
    ofRecords records = ofRows rows := by
  unfold ofRecords ofRows
  generalize ({} : Snapshot) = s
  induction h generalizing s with
  | nil => rfl
  | cons read _ ih =>
    rw [List.foldlM_cons, List.foldlM_cons, read]
    exact congrArg _ (funext ih)

/-! ### What a snapshot shows -/

/-- The link of a row with an edge **tells** of it, and a row without an edge has none. -/
theorem forall₂_tells (named : Named (rows.flatMap Row.mentions)) :
    List.Forall₂ Link.Tells (rows.filter Row.isLinked) (rows.filterMap Row.link?) := by
  induction rows with
  | nil => exact .nil
  | cons row rows ih =>
    have rest := ih fun a ha => named a (List.mem_append_right _ ha)
    match hl : row.link, hm : row.neighbor with
    | none, _ => simpa [Row.isLinked, Row.link?, hl] using rest
    | some type, none => simpa [Row.isLinked, Row.link?, hl, hm] using rest
    | some type, some m =>
      have mentioned := Row.mentions_of_link hl hm
      obtain ⟨p, source⟩ := named row.node (by simp [mentioned])
      obtain ⟨q, target⟩ := named m (by simp [mentioned])
      have link : row.link? = some ⟨p, q, Row.shownType type⟩ := by
        simp [Row.link?, hl, hm, source, target]
      rw [List.filterMap_cons_some link, List.filter_cons_of_pos (by simp [Row.isLinked, hl, hm])]
      exact .cons ⟨source, by simp [hm, target], by simp [hl]⟩ rest

/-- Both ends of a link are mentioned. -/
theorem met_ends {l : Link} (h : l ∈ rows.filterMap Row.link?) :
    Met (rows.flatMap Row.mentions) l.source ∧ Met (rows.flatMap Row.mentions) l.target := by
  obtain ⟨row, hrow, link⟩ := List.mem_filterMap.mp h
  simp only [Row.link?, Option.bind_eq_bind, Option.bind_eq_some_iff, Option.pure_def,
    Option.some.injEq] at link
  obtain ⟨type, hl, m, hm, p, source, q, target, rfl⟩ := link
  have mentioned := Row.mentions_of_link hl hm
  exact ⟨⟨row.node, List.mem_flatMap.mpr ⟨row, hrow, by simp [mentioned]⟩, source⟩,
    ⟨m, List.mem_flatMap.mpr ⟨row, hrow, by simp [mentioned]⟩, target⟩⟩

/-- **A snapshot of coherent rows shows them.** -/
theorem shows_ofRows (coherent : Coherent (rows.flatMap Row.mentions)) :
    ∃ s, ofRows rows = .ok s ∧ s.Shows rows := by
  refine ⟨_, ofRows_of_named coherent.named, ?_⟩
  exact
    { nodup := nodup_paths_noted coherent
      mem_paths := fun p => mem_paths_noted coherent
      order := pairwise_metBefore_noted coherent
      links := forall₂_tells coherent.named
      ends := fun l hl =>
        ⟨(mem_paths_noted coherent).mpr (met_ends hl).1,
          (mem_paths_noted coherent).mpr (met_ends hl).2⟩ }

end OfRows

/-- **A wider window only adds to the end of a snapshot.** Of coherent rows, any number of the first
ones make a snapshot that shows them; its nodes and links are the first ones of the snapshot of more
rows; and it has at most one link for each row, and two nodes. Records that are these rows make the
same snapshot. -/
theorem shows_take (rows : List Row) (coherent : Coherent (rows.flatMap Row.mentions)) (k l : Nat)
    (le : k ≤ l) :
    ∃ s t, ofRows (rows.take k) = .ok s ∧ ofRows (rows.take l) = .ok t ∧
      s.nodes <+: t.nodes ∧ s.links <+: t.links ∧
      s.Shows (rows.take k) ∧ s.links.length ≤ k ∧ s.nodes.length ≤ 2 * k ∧
      ∀ records, List.Forall₂ (fun j row => Row.ofRecord j = .ok row) records rows →
        ofRecords (records.take k) = .ok s := by
  have part (n : Nat) : Coherent ((rows.take n).flatMap Row.mentions) :=
    coherent.mono ((List.take_prefix n rows).flatMap Row.mentions).subset
  have first : rows.take k <+: rows.take l := List.take_isPrefix_take.mpr (Or.inl le)
  have done := ofRows_of_named (part k).named
  obtain ⟨s, hs, shows⟩ := shows_ofRows (part k)
  obtain rfl := Except.ok.inj (done.symm.trans hs)
  obtain ⟨links, nodes⟩ := shows.length_le
  have short : (rows.take k).length ≤ k := List.length_take_le k rows
  refine ⟨_, _, done, ofRows_of_named (part l).named, ?_, ?_, shows, ?_, ?_, ?_⟩
  · exact noted_prefix (first.flatMap Row.mentions)
  · exact first.filterMap Row.link?
  · omega
  · omega
  · intro records h
    rw [ofRecords_eq (List.forall₂_take k h), done]

/-- Rows of three files: one that leads to another and then to itself, and one without an edge. The
store names the files in its own way. -/
def threeRows : List Row :=
  let a : RowNode := ⟨"4:s:2", some (.ofString "a.js")⟩
  let b : RowNode := ⟨"4:s:3", some (.ofString "b.js")⟩
  let c : RowNode := ⟨"4:s:1", some (.ofString "c.js")⟩
  [⟨a, some (.ofString dependsOn), some b⟩, ⟨a, some .null, some a⟩, ⟨c, none, none⟩]

/-- A window of one of the three rows shows two files, and one of them all shows the third. -/
theorem shows_take_threeRows :
    Coherent (threeRows.flatMap Row.mentions) ∧
      ∃ s t, ofRows (threeRows.take 1) = .ok s ∧ ofRows (threeRows.take 3) = .ok t ∧
        s.nodes <+: t.nodes ∧ s.links <+: t.links ∧ s.nodes.length ≤ 2 * 1 ∧
        s.paths = [.ofString "a.js", .ofString "b.js"] ∧
        t.paths = [.ofString "a.js", .ofString "b.js", .ofString "c.js"] := by
  have mentioned (x : RowNode) (hx : x ∈ threeRows.flatMap Row.mentions) :
      x = ⟨"4:s:2", some (.ofString "a.js")⟩ ∨ x = ⟨"4:s:3", some (.ofString "b.js")⟩ ∨
        x = ⟨"4:s:1", some (.ofString "c.js")⟩ := by
    simp only [threeRows, Row.mentions, List.flatMap_cons, List.flatMap_nil, List.append_nil,
      List.cons_append, List.nil_append, List.mem_cons, List.not_mem_nil, or_false] at hx
    rcases hx with rfl | rfl | rfl | rfl | rfl <;> simp
  have coherent : Coherent (threeRows.flatMap Row.mentions) := by
    constructor
    · intro x hx
      rcases mentioned x hx with rfl | rfl | rfl <;> exact ⟨_, rfl⟩
    · intro x hx y hy
      rcases mentioned x hx with rfl | rfl | rfl <;>
        rcases mentioned y hy with rfl | rfl | rfl <;> simp
  obtain ⟨s, t, hs, ht, nodes, links, -, -, few, -⟩ := shows_take threeRows coherent 1 3 (by decide)
  refine ⟨coherent, s, t, hs, ht, nodes, links, few, ?_, ?_⟩
  · obtain rfl := Except.ok.inj hs
    rfl
  · obtain rfl := Except.ok.inj ht
    rfl

end Snapshot

end DepGraph

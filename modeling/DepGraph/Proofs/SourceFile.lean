import DepGraph.Content
import DepGraph.Proofs.Ingestion.Stages
import DepGraph.Proofs.Survey.Listing
import DepGraph.Proofs.Text.Replaced
import DepGraph.Proofs.Text.SmallForm

/-!
# Of what kind a file is

Three readers tell the kind of a file from its path, each in its own way. A survey looks at the end
of the name as it is written, the content is taken by the small form of what follows the last dot of
the name, and the grammar is chosen by the end of the small form of the whole path. This module says
that they agree (`DepGraph.SourceFile.kinds_agree`), whatever dots, slashes and letters are in the
path.

The fact that carries it holds of *every* path, eligible or not: the small form of a path ends as a
source does exactly if this end is its extension (`DepGraph.SourceFile.suffix_small_iff`). So the
language of a path is that of its extension (`DepGraph.SourceFile.ofPath_eq`). For other ends this
would fail: a small form on its own can differ from the end of a longer one in its sigmas, but no
source ends in one.
-/

namespace DepGraph

/-! ### What follows the last dot or slash -/

section LastMark

variable {name rest : List Char} {mark : Char}

/-- Where a mark is not, everything differs from it, also from the end on. -/
theorem bne_of_mem_reverse (apart : mark ∉ rest) : ∀ c ∈ rest.reverse, (c != mark) = true :=
  fun _ hc => bne_iff_ne.mpr fun same => apart (same ▸ List.mem_reverse.mp hc)

/-- What follows the last dot. -/
theorem afterLastDot_append (front : List Char) (last : '.' ∉ rest) :
    afterLastDot (front ++ '.' :: rest) = '.' :: rest := by
  have turned : (front ++ '.' :: rest).reverse = rest.reverse ++ '.' :: front.reverse := by simp
  rw [afterLastDot, if_pos (by simp), turned,
    Text.takeWhile_append_cons _ (bne_of_mem_reverse last) (by simp), List.reverse_reverse]

/-- Where there is a dot, there is a last one. -/
theorem exists_lastDot (dotted : '.' ∈ name) :
    ∃ front rest, name = front ++ '.' :: rest ∧ '.' ∉ rest := by
  obtain ⟨back, front, turned, first⟩ := List.eq_append_cons_of_mem (List.mem_reverse.mpr dotted)
  refine ⟨front.reverse, back.reverse, ?_, by simpa using first⟩
  simpa using congrArg List.reverse turned

/-- What follows the last dot is at the end. -/
theorem afterLastDot_suffix_self (name : List Char) : afterLastDot name <:+ name := by
  by_cases dotted : '.' ∈ name
  · obtain ⟨front, rest, rfl, last⟩ := exists_lastDot dotted
    rw [afterLastDot_append front last]
    exact List.suffix_append front _
  · rw [afterLastDot, if_neg dotted]
    exact List.nil_suffix

namespace Path

/-- The last component is at the end. -/
theorem name_suffix_self (path : List Char) : Path.name path <:+ path := by
  rw [← List.reverse_prefix, Path.name, List.reverse_reverse]
  exact List.takeWhile_prefix _

/-- What has no slash belongs to the last component. -/
theorem name_append (front : List Char) (plain : '/' ∉ rest) :
    Path.name (front ++ rest) = Path.name front ++ rest := by
  rw [Path.name, List.reverse_append, List.takeWhile_append_of_pos (bne_of_mem_reverse plain)]
  simp [Path.name]

/-- **The last of the names in a path** is its last component. -/
theorem name_of_names {path name : String} {above : List String}
    (h : names path = above ++ [name]) : Path.name path.toList = name.toList := by
  have chars : components path.toList = above.map String.toList ++ [name.toList] := by
    simpa [names, Function.comp_def] using congrArg (List.map String.toList) h
  have plain : '/' ∉ name.toList := slash_not_mem_of_mem_components (by rw [chars]; simp)
  have whole := joined_components path.toList
  rw [chars] at whole
  rcases eq_or_ne (above.map String.toList) [] with none | more
  · rw [none] at whole
    simpa [← whole, joined, Path.name] using name_append [] plain
  · rw [joined_concat more, List.append_cons] at whole
    rw [← whole, name_append _ plain]
    simp [Path.name]

end Path

end LastMark

namespace SourceFile

/-! ### Endings -/

section Endings

variable {path ending : String} {cs ds letters name : List Char} {c : Char}

/-- What can be the **ending** of a source: a dot and small letters of ASCII. -/
def IsEnding (ending : List Char) : Prop :=
  ∃ letters, ending = '.' :: letters ∧ ∀ c ∈ letters, c.isLower = true

/-- An ending is recognized by its first character and the others. -/
theorem isEnding_iff : IsEnding cs ↔ cs.head? = some '.' ∧ cs.tail.all Char.isLower = true := by
  rw [List.all_eq_true]
  constructor
  · rintro ⟨letters, rfl, small⟩
    exact ⟨rfl, small⟩
  · rintro ⟨dot, small⟩
    exact ⟨cs.tail, List.eq_cons_of_mem_head? dot, small⟩

instance (cs : List Char) : Decidable (IsEnding cs) := decidable_of_iff _ isEnding_iff.symm

/-- The endings of sources are such endings. -/
theorem isEnding_of_mem : ∀ ending ∈ sourceEndings, IsEnding ending.toList := by
  decide

/-- What is in an ending. -/
theorem IsEnding.eq_or_small (h : IsEnding cs) (hc : c ∈ cs) :
    c = '.' ∨ 97 ≤ c.toNat ∧ c.toNat ≤ 122 := by
  obtain ⟨letters, rfl, small⟩ := h
  refine (List.mem_cons.mp hc).imp_right fun member => ?_
  have bounds : (decide (c.val ≥ 'a'.val) && decide (c.val ≤ 'z'.val)) = true := small c member
  rw [Bool.and_eq_true, decide_eq_true_eq, decide_eq_true_eq] at bounds
  exact bounds

/-- There is one dot in an ending. -/
theorem IsEnding.exists_letters (h : IsEnding cs) :
    ∃ letters, cs = '.' :: letters ∧ '.' ∉ letters := by
  obtain ⟨letters, rfl, small⟩ := h
  exact ⟨letters, rfl, fun dot => absurd (small _ dot) (by decide)⟩

/-- There is no slash in an ending. -/
theorem IsEnding.slash_notMem (h : IsEnding cs) : '/' ∉ cs := fun slash => by
  have number : '/'.toNat = 47 := rfl
  rcases h.eq_or_small slash with dot | small
  · exact absurd dot (by decide)
  · omega

theorem IsEnding.ascii (h : IsEnding cs) : ∀ c ∈ cs, c.toNat < 0x80 := fun c hc => by
  rcases h.eq_or_small hc with rfl | small
  · decide
  · omega

/-- An ending is its own small form, wherever it stands. -/
theorem IsEnding.smallFrom_eq (h : IsEnding cs) (before : List Char) :
    Text.smallFrom before cs = cs := by
  refine Text.smallFrom_self h.ascii fun c hc => Char.toNat_inj.mp ?_
  rw [Text.toNat_toLower]
  rcases h.eq_or_small hc with rfl | small
  · rfl
  · exact if_neg (by omega)

/-- **A name ends with an ending** exactly if this is what follows its last dot. -/
theorem IsEnding.suffix_iff (h : IsEnding cs) : cs <:+ name ↔ afterLastDot name = cs := by
  constructor
  · rintro ⟨front, rfl⟩
    obtain ⟨letters, rfl, last⟩ := h.exists_letters
    exact afterLastDot_append front last
  · rintro rfl
    exact afterLastDot_suffix_self name

/-- A name ends with at most one ending. -/
theorem IsEnding.unique (h : IsEnding cs) (h' : IsEnding ds) (ends : cs <:+ name)
    (ends' : ds <:+ name) : ds = cs :=
  (h'.suffix_iff.mp ends').symm.trans (h.suffix_iff.mp ends)

/-- A name that ends with an ending has it as its extension. -/
theorem extension_of_suffix (h : IsEnding ending.toList)
    (ends : ending.toList <:+ Path.name path.toList) : extension path = ending := by
  rw [extension, h.suffix_iff.mp ends, Text.small, h.smallFrom_eq, String.ofList_toList]

/-- **The last dot of a small form** is that of the text. -/
theorem afterLastDot_small (front : List Char) (last : '.' ∉ letters) :
    afterLastDot (Text.small (front ++ '.' :: letters)) =
      Text.smallFrom front.reverse ('.' :: letters) := by
  obtain ⟨front', whole⟩ := Text.exists_smallFrom_append [] front ('.' :: letters)
  have dot : Text.smallFrom (front.reverse ++ []) ('.' :: letters) =
      '.' :: Text.smallFrom ('.' :: (front.reverse ++ [])) letters := rfl
  have last' : '.' ∉ Text.smallFrom ('.' :: (front.reverse ++ [])) letters := fun member =>
    last ((Text.mem_smallFrom_iff (by decide) (by decide)).mp member)
  rw [Text.small, whole, dot, afterLastDot_append front' last', ← dot, List.append_nil]

/-- The small form of a path ends with its extension, if that is an ending. -/
theorem suffix_small_of_extension (h : IsEnding ending.toList) (own : extension path = ending) :
    ending.toList <:+ Text.small path.toList := by
  obtain ⟨front, whole⟩ :=
    (afterLastDot_suffix_self _).trans (Path.name_suffix_self path.toList)
  have alone : Text.smallFrom [] (afterLastDot (Path.name path.toList)) = ending.toList := by
    rw [← own, extension, String.toList_ofList, Text.small]
  have behind : Text.smallFrom (front.reverse ++ []) (afterLastDot (Path.name path.toList)) =
      ending.toList := by
    rw [← alone]
    exact Text.smallFrom_eq_of_ascii (alone ▸ h.ascii) _
  obtain ⟨front', small⟩ :=
    Text.exists_smallFrom_append [] front (afterLastDot (Path.name path.toList))
  rw [whole, behind] at small
  exact ⟨front', small.symm⟩

/-- The end of the small form of a path is the extension of the path, if it is an ending. -/
theorem extension_of_suffix_small (h : IsEnding ending.toList)
    (ends : ending.toList <:+ Text.small path.toList) : extension path = ending := by
  obtain ⟨letters, own, -⟩ := h.exists_letters
  have dot : '.' ∈ Text.small path.toList := ends.subset (by simp [own])
  obtain ⟨front, rest, whole, last⟩ :=
    exists_lastDot ((Text.mem_smallFrom_iff (by decide) (by decide)).mp dot)
  rw [whole, h.suffix_iff, afterLastDot_small front last] at ends
  -- there is no slash behind the last dot, as there is none in its small form
  have plain : '/' ∉ '.' :: rest := fun slash =>
    h.slash_notMem (ends ▸ (Text.mem_smallFrom_iff (by decide) (by decide)).mpr slash)
  have alone : Text.small ('.' :: rest) = ending.toList :=
    (Text.smallFrom_eq_of_ascii (ends ▸ h.ascii) []).trans ends
  rw [extension, whole, Path.name_append front plain, afterLastDot_append _ last, alone,
    String.ofList_toList]

/-- **The small form of a path ends with an ending exactly if this is the extension of the path**,
whatever the path is. -/
theorem suffix_small_iff (h : IsEnding ending.toList) :
    ending.toList <:+ Text.small path.toList ↔ extension path = ending :=
  ⟨extension_of_suffix_small h, suffix_small_of_extension h⟩

-- with a sigma in it, the extension of a path may not be at the end of its small form
example : ¬(extension "a.\u03a3").toList <:+ Text.small "a.\u03a3".toList := by
  decide +kernel

end Endings

/-! ### Kinds -/

section Kinds

variable {path name ending : String}

/-- The **kinds** of sources: the endings, each with the language that it stands for. -/
def kinds : List (String × Language) :=
  [(".js", .javascript), (".jsx", .javascript), (".ts", .typescript), (".tsx", .tsx),
   (".mjs", .javascript), (".cjs", .javascript), (".py", .python), (".ipynb", .python)]

/-- There is a kind for every ending. -/
theorem map_kinds : kinds.map (·.1) = sourceEndings := rfl

/-- The language that an extension stands for: that of its kind, or else plain scripts. -/
def languageOf (extension : String) : Language :=
  ((kinds.find? (·.1 == extension)).map (·.2)).getD .javascript

/-- The ending of a kind stands for its language. -/
theorem languageOf_of_mem : ∀ kind ∈ kinds, languageOf kind.1 = kind.2 := by
  decide

/-- What is no ending of a source stands for plain scripts. -/
theorem languageOf_of_notMem (other : ending ∉ sourceEndings) :
    languageOf ending = .javascript := by
  have none : kinds.find? (·.1 == ending) = none := by
    refine List.find?_eq_none.mpr fun kind member same => other ?_
    rw [← beq_iff_eq.mp same, ← map_kinds]
    exact List.mem_map_of_mem member
  rw [languageOf, none]
  rfl

/-- **The language of a path is that of its extension**, for every path. -/
theorem ofPath_eq (path : String) : Language.ofPath path = languageOf (extension path) := by
  have ends (ending : String) (source : ending ∈ sourceEndings) :
      endsWith (Text.small path.toList) ending.toList = true ↔ extension path = ending := by
    rw [endsWith, List.isSuffixOf_iff_suffix, suffix_small_iff (isEnding_of_mem ending source)]
  have choice : Language.ofPath path =
      if extension path = ".tsx" then .tsx
      else if extension path = ".ts" then .typescript
      else if extension path = ".py" ∨ extension path = ".ipynb" then .python
      else .javascript := by
    simp only [Language.ofPath, Bool.or_eq_true, ends ".tsx" (by decide), ends ".ts" (by decide),
      ends ".py" (by decide), ends ".ipynb" (by decide)]
  rw [choice]
  generalize extension path = own
  by_cases source : own ∈ sourceEndings
  · revert own
    decide
  · have other (ending : String) (source' : ending ∈ sourceEndings) : own ≠ ending :=
      fun same => source (same ▸ source')
    rw [languageOf_of_notMem source, if_neg (other _ (by decide)), if_neg (other _ (by decide)),
      if_neg (not_or.mpr ⟨other _ (by decide), other _ (by decide)⟩)]

/-! ### Ways of reading -/

/-- What a file gives that is read **as a notebook**: the code of the notebook, or else nothing and
the event of it, unless the notebook is nested too deeply. -/
def asNotebook (file : SourceFile) : Except Fault (Text × List Event) :=
  match file.stored.bind (Notebook.ofBytesWithin Json.depthLimit) with
  | .ok text => .ok (text, [])
  | .error .tooDeep => .error .tooDeep
  | .error f => .ok ([], [.unreadable file.path f.message])

/-- What a file gives that is read **as text**: all of its characters. -/
def asText (file : SourceFile) : Except Fault (Text × List Event) := do
  let bytes ← file.stored
  let cs ← (Utf8.decode bytes).mapError .undecodable
  return (Text.ofChars cs, [])

/-- A path is one **of notebooks** if every file there is read as a notebook. -/
def OfNotebooks (path : String) : Prop :=
  ∀ file : SourceFile, file.path = path → file.content = file.asNotebook

/-- A path is one **of texts** if every file there is read as text. -/
def OfTexts (path : String) : Prop :=
  ∀ file : SourceFile, file.path = path → file.content = file.asText

/-- The content of a file is had in one of the two ways. -/
theorem content_eq_ite (file : SourceFile) :
    file.content = if isNotebook file.path then file.asNotebook else file.asText := rfl

/-- The ways differ where no file is: a notebook without bytes is empty, a text is a fault. -/
theorem asNotebook_ne_asText {file : SourceFile} (missing : file.bytes = none) :
    file.asNotebook ≠ file.asText := by
  simp [asNotebook, asText, stored, missing, bind, Except.bind]

/-- **The paths of notebooks** are those that have the extension of notebooks. -/
theorem ofNotebooks_iff : OfNotebooks path ↔ isNotebook path = true := by
  constructor
  · intro all
    by_contra other
    have read := content_eq_ite ⟨path, "", none⟩
    rw [if_neg other, all _ rfl] at read
    exact asNotebook_ne_asText rfl read
  · rintro notebook file rfl
    rw [content_eq_ite, if_pos notebook]

/-- **The paths of texts** are all others. -/
theorem ofTexts_iff : OfTexts path ↔ ¬isNotebook path = true := by
  constructor
  · intro all notebook
    have read := content_eq_ite ⟨path, "", none⟩
    rw [if_pos notebook, all _ rfl] at read
    exact asNotebook_ne_asText rfl read.symm
  · rintro other file rfl
    rw [content_eq_ite, if_neg other]

/-! ### Agreement -/

/-- A path is **of one kind** for all that read it, where this is the name at its end. -/
structure IsOfKind (path name ending : String) (language : Language) : Prop where
  /-- The name ends with the ending. -/
  ends : ending.toList <:+ name.toList
  /-- It ends with that of no other source. -/
  only : ∀ other ∈ sourceEndings, other.toList <:+ name.toList → other = ending
  /-- The ending is the extension. -/
  extension_eq : extension path = ending
  /-- Files are read as notebooks exactly if the name ends as that of a notebook does. -/
  ofNotebooks_iff : OfNotebooks path ↔ ".ipynb".toList <:+ name.toList
  /-- Files are read as text exactly if it does not. -/
  ofTexts_iff : OfTexts path ↔ ¬".ipynb".toList <:+ name.toList
  /-- Files are taken for ones in the language. -/
  language_eq : Language.ofPath path = language

/-- **What ends as a source does is of one kind.** -/
theorem isOfKind_of_eligible {above : List String} (named : Path.names path = above ++ [name])
    (eligible : isEligible name = true) :
    ∃ ending language, (ending, language) ∈ kinds ∧ IsOfKind path name ending language := by
  obtain ⟨ending, source, ends⟩ := List.any_eq_true.mp eligible
  have ends : ending.toList <:+ name.toList := List.isSuffixOf_iff_suffix.mp ends
  have proper := isEnding_of_mem ending source
  have only : ∀ other ∈ sourceEndings, other.toList <:+ name.toList → other = ending :=
    fun other source' ends' =>
      String.toList_inj.mp (proper.unique (isEnding_of_mem other source') ends ends')
  have own : extension path = ending :=
    extension_of_suffix proper (Path.name_of_names named ▸ ends)
  have notebook : isNotebook path = true ↔ ".ipynb".toList <:+ name.toList := by
    rw [isNotebook, notebookEnding, beq_iff_eq, own]
    exact ⟨fun same => same ▸ ends, fun ends' => (only _ (by decide) ends').symm⟩
  obtain ⟨kind, member, rfl⟩ := List.mem_map.mp (map_kinds ▸ source)
  refine ⟨kind.1, kind.2, member, ends, only, own, ofNotebooks_iff.trans notebook,
    ofTexts_iff.trans (not_congr notebook), ?_⟩
  rw [ofPath_eq, own, languageOf_of_mem kind member]

/-- **Every reader of a path tells the same kind**, if the path ends as a source does, whatever is
above its name: its extension is the one ending of a source that the name ends with, its files are
read as notebooks exactly if this is the ending of notebooks, and they are taken for ones in the
language of the ending. And a path with the extension of notebooks is taken for one in their
language even if it does not end as a source does. -/
theorem kinds_agree :
    (∀ path name above, Path.names path = above ++ [name] → isEligible name = true →
      ∃ ending language, (ending, language) ∈ kinds ∧ IsOfKind path name ending language) ∧
    ∀ path, extension path = ".ipynb" → Language.ofPath path = .python := by
  refine ⟨fun path name above => isOfKind_of_eligible, fun path notebook => ?_⟩
  rw [ofPath_eq, notebook]
  rfl

/-- A name that is only an ending is of the kind of that ending, although it is below a directory
that is named as a notebook; and a notebook in capitals, which is no source, is taken for one in the
language of notebooks. -/
theorem kinds_agree_bareEnding :
    Path.names "a.ipynb/.tsx" = ["a.ipynb"] ++ [".tsx"] ∧ isEligible ".tsx" = true ∧
      IsOfKind "a.ipynb/.tsx" ".tsx" ".tsx" .tsx ∧
      isEligible "\u03a3.IPYNB" = false ∧ extension "\u03a3.IPYNB" = ".ipynb" ∧
      Language.ofPath "\u03a3.IPYNB" = .python := by
  have named : Path.names "a.ipynb/.tsx" = ["a.ipynb"] ++ [".tsx"] := by decide
  have eligible : isEligible ".tsx" = true := by decide
  have notebook : extension "\u03a3.IPYNB" = ".ipynb" := by decide +kernel
  obtain ⟨ending, language, kind, agree⟩ := kinds_agree.1 _ _ _ named eligible
  obtain rfl : ".tsx" = ending := agree.only _ (by decide) List.suffix_rfl
  obtain rfl : language = .tsx := (languageOf_of_mem _ kind).symm.trans rfl
  exact ⟨named, eligible, agree, by decide, notebook, kinds_agree.2 _ notebook⟩

end Kinds

end SourceFile

/-! ### The files of a survey -/

namespace Survey

/-- **The files that a survey finds are each of one kind.** -/
theorem isOfKind_of_take {filter : Filter} {limit : Int} {root : String}
    {entries : List (String × Entry)} {files : List SourceFile} {file : SourceFile}
    (sound : (Entry.directory entries).Sound)
    (taken : take filter limit root (.ok (.directory entries)) = .ok files)
    (member : file ∈ files) :
    ∃ above name ending language, Path.names file.path = above ++ [name] ∧
      (ending, language) ∈ SourceFile.kinds ∧
      SourceFile.IsOfKind file.path name ending language := by
  obtain ⟨_, tree, rfl⟩ := ofTree_eq_ok (take_eq_ok taken)
  obtain rfl := Entry.directory.inj (Except.ok.inj tree)
  have found := ((lists_filesIn sound).mem_iff file.path).mp (List.mem_map_of_mem member)
  obtain ⟨above, name, named, eligible⟩ := found.ending
  obtain ⟨ending, language, kind, agree⟩ := SourceFile.isOfKind_of_eligible named eligible
  exact ⟨above, name, ending, language, named, kind, agree⟩

end Survey

end DepGraph

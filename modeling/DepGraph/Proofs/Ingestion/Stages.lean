import DepGraph.Ingestion

/-!
# What comes of the stages of an ingestion

Acquiring a repository and discovering its files can each fail, and then the fault is one of the
family that ingestions are meant to fail with, but for two: there may be no repository in what was
cloned (`DepGraph.Ingestion.acquire_eq_error`), and an ignore pattern may be refused
(`DepGraph.Ingestion.surveyOf_eq_error`). Where they succeed the repository is what was cloned, and
the files are those of a directory.
-/

namespace DepGraph

/-! ### Surveys -/

namespace Survey

variable {filter : Filter} {limit : Int} {root : String} {tree : Except PlaceFlaw Entry}
variable {files : List SourceFile} {f : Fault}

/-- A walk that succeeds lists the files of a directory. -/
theorem ofTree_eq_ok (h : ofTree filter root tree = .ok files) :
    ∃ entries, tree = .ok (.directory entries) ∧ files = filesIn filter root entries := by
  unfold ofTree at h
  split at h
  · rename_i entries
    split at h
    · cases h
    · exact ⟨entries, rfl, (Except.ok.inj h).symm⟩
  · cases h
  · cases h

/-- **A walk fails in the family.** -/
theorem isIngestion_of_ofTree_eq_error (h : ofTree filter root tree = .error f) :
    f.isIngestion = true := by
  unfold ofTree at h
  split at h
  · split at h
    · exact Except.error.inj h ▸ rfl
    · cases h
  · exact Except.error.inj h ▸ rfl
  · exact Except.error.inj h ▸ rfl

/-- A survey that succeeds is the walk. -/
theorem take_eq_ok (h : take filter limit root tree = .ok files) :
    ofTree filter root tree = .ok files := by
  unfold take at h
  cases walked : ofTree filter root tree with
  | error f => simp [walked, bind, Except.bind] at h
  | ok found =>
    simp only [walked, bind, Except.bind] at h
    split at h
    · cases h
    · exact h

/-- **A survey fails in the family.** -/
theorem isIngestion_of_take_eq_error (h : take filter limit root tree = .error f) :
    f.isIngestion = true := by
  unfold take at h
  cases walked : ofTree filter root tree with
  | error f' =>
    simp only [walked, bind, Except.bind, Except.error.injEq] at h
    exact h ▸ isIngestion_of_ofTree_eq_error walked
  | ok found =>
    simp only [walked, bind, Except.bind] at h
    split at h
    · exact Except.error.inj h ▸ rfl
    · cases h

end Survey

/-! ### Stages -/

namespace Ingestion

variable {service : Service} {call : CloneCall} {clone : CloneOutcome} {c : Checkout} {f : Fault}
variable {files : List SourceFile} {refusal : Ignore.Refusal} {rules : Ignore.Rules}

/-- What is acquired is what was cloned. -/
theorem acquire_eq_ok (h : acquire call clone = .ok c) :
    clone = .checkout c.tree c.head ∧ c = ⟨call.target, c.head, c.tree⟩ := by
  cases clone with
  | checkout tree head =>
    obtain rfl := Except.ok.inj h
    exact ⟨rfl, rfl⟩
  | _ => cases h

/-- **Acquiring fails in the family**, or there is no repository in what was cloned. -/
theorem acquire_eq_error (h : acquire call clone = .error f) :
    f.isIngestion = true ∨ ∃ tree, clone = .bare tree ∧ f = .noRepository call.target := by
  cases clone with
  | bare tree => exact Or.inr ⟨tree, rfl, (Except.error.inj h).symm⟩
  | checkout => cases h
  | _ => exact Or.inl (Except.error.inj h ▸ rfl)

/-- Where an ignore pattern is refused no files are discovered. -/
theorem surveyOf_of_refused
    (refused : Ignore.Rules.ofExtra service.settings.ignoreLines = .error refusal) :
    surveyOf service c = .error (.pattern refusal) := by
  rw [surveyOf, refused]
  rfl

/-- Where no ignore pattern is refused the files are those of a survey. -/
theorem surveyOf_of_rules
    (compiled : Ignore.Rules.ofExtra service.settings.ignoreLines = .ok rules) :
    surveyOf service c =
      Survey.take (.ofRules rules) service.settings.maxFiles c.place (.ok c.tree) := by
  rw [surveyOf, compiled]
  rfl

/-- The files that are discovered are those of a directory. -/
theorem surveyOf_eq_ok (h : surveyOf service c = .ok files) :
    ∃ rules entries, Ignore.Rules.ofExtra service.settings.ignoreLines = .ok rules ∧
      c.tree = .directory entries ∧ files = Survey.filesIn (.ofRules rules) c.place entries := by
  cases compiled : Ignore.Rules.ofExtra service.settings.ignoreLines with
  | error refusal => cases h.symm.trans (surveyOf_of_refused compiled)
  | ok rules =>
    rw [surveyOf_of_rules compiled] at h
    obtain ⟨entries, tree, listed⟩ := Survey.ofTree_eq_ok (Survey.take_eq_ok h)
    exact ⟨rules, entries, rfl, Except.ok.inj tree, listed⟩

/-- **Discovering fails in the family**, or an ignore pattern is refused. -/
theorem surveyOf_eq_error (h : surveyOf service c = .error f) :
    f.isIngestion = true ∨ ∃ refusal,
      Ignore.Rules.ofExtra service.settings.ignoreLines = .error refusal ∧
        f = .pattern refusal := by
  cases compiled : Ignore.Rules.ofExtra service.settings.ignoreLines with
  | error refusal =>
    exact Or.inr ⟨refusal, rfl, Except.error.inj (h.symm.trans (surveyOf_of_refused compiled))⟩
  | ok rules =>
    rw [surveyOf_of_rules compiled] at h
    exact Or.inl (Survey.isIngestion_of_take_eq_error h)

end Ingestion

end DepGraph

import BuildYard.Label.Build
/-!
# Reading the labels of builds

The ids that were written as labels are read back from every set of labels that holds them, and from no
other.

* `BuildLabels.find?_toLabels`: what is written under each key.
* `BuildLabels.ofLabels?_eq_some_iff`: what is read is what the labels hold.
-/

namespace BuildYard

/-- Do the second labels hold every label of the first, with its value? -/
def Labels.HeldBy (labels labels' : Labels) : Prop :=
  ∀ key value, labels.find? key = some value → labels'.find? key = some value

namespace BuildLabels

variable (b : BuildLabels)

/-- What is written under a key. -/
def valueOf? : LabelKey → Option String
  | .deploymentJob => some buildJobMark
  | .jobId => some b.jobId
  | .serviceId => some b.serviceId
  | .jobName => some b.jobName
  | .team | .project | .environment | .service => none

theorem find?_insert_text (labels : Labels) (key key' : LabelKey) (value : String) :
    (labels.insert key.text value).find? key'.text =
      if key' = key then some value else labels.find? key'.text := by
  by_cases h : key' = key
  · rw [h, SortedMap.find?_insert_self, if_pos rfl]
  · rw [SortedMap.find?_insert_of_ne _ (fun htext => h (LabelKey.text_injective htext)), if_neg h]

theorem find?_toLabels (key : LabelKey) : b.toLabels.find? key.text = b.valueOf? key := by
  simp only [toLabels, SortedMap.ofList, List.foldl_cons, List.foldl_nil, find?_insert_text,
    SortedMap.find?_empty]
  cases key <;> rfl

/-- Nothing is written under other keys. -/
theorem exists_key_of_find?_toLabels {text value : String}
    (h : b.toLabels.find? text = some value) : ∃ key : LabelKey, key.text = text := by
  refine Classical.byContradiction fun hnone => ?_
  have hother : ∀ key : LabelKey, text ≠ key.text := fun key e => hnone ⟨key, e.symm⟩
  simp only [toLabels, SortedMap.ofList, List.foldl_cons, List.foldl_nil] at h
  rw [SortedMap.find?_insert_of_ne _ (hother _), SortedMap.find?_insert_of_ne _ (hother _),
    SortedMap.find?_insert_of_ne _ (hother _), SortedMap.find?_insert_of_ne _ (hother _)] at h
  cases h

/-- The labels that hold what is written hold it under each of the keys. -/
theorem heldBy_iff {labels : Labels} :
    b.toLabels.HeldBy labels ↔
      ∀ key value, b.valueOf? key = some value → labels.find? key.text = some value := by
  constructor
  · intro h key value hvalue
    exact h key.text value ((b.find?_toLabels key).trans hvalue)
  · intro h text value hfind
    obtain ⟨key, rfl⟩ := b.exists_key_of_find?_toLabels hfind
    exact h key value ((b.find?_toLabels key).symm.trans hfind)

/-- The ids are read exactly from the labels that hold what is written for them. -/
theorem ofLabels?_eq_some_iff {labels : Labels} :
    ofLabels? labels = some b ↔ b.toLabels.HeldBy labels := by
  rw [heldBy_iff]
  constructor
  · intro h
    unfold ofLabels? at h
    split at h
    · rename_i hmark
      obtain ⟨serviceId, hservice, h⟩ := Option.bind_eq_some_iff.1 h
      obtain ⟨jobId, hjob, h⟩ := Option.bind_eq_some_iff.1 h
      obtain ⟨jobName, hname, h⟩ := Option.bind_eq_some_iff.1 h
      cases h
      intro key value hvalue
      cases key with
      | serviceId => exact hservice.trans hvalue
      | jobId => exact hjob.trans hvalue
      | deploymentJob => exact hmark.trans hvalue
      | jobName => exact hname.trans hvalue
      | team | project | environment | service => cases hvalue
    · cases h
  · intro h
    rw [ofLabels?, if_pos (h .deploymentJob _ rfl), h .serviceId _ rfl, h .jobId _ rfl,
      h .jobName _ rfl]
    rfl

/-- What is written is read back. -/
theorem ofLabels?_toLabels : ofLabels? b.toLabels = some b :=
  b.ofLabels?_eq_some_iff.2 fun _ _ h => h

end BuildLabels

end BuildYard

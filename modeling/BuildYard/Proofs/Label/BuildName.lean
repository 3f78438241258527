import BuildYard.Label.Build
import BuildYard.Label.Value
import Mathlib.Data.String.Basic
/-!
# The names of builds

The name of a build's job is the id of the job, a separator and a number of seconds. The separator can
stand in the id as well, and the number can begin with the hyphen that the separator ends with; still
the name tells both (`buildJobName_inj`), because no hyphen stands among the digits.

* `buildJobName_inj`: builds with the same name have the same id and the same second.
* `labelFault?_buildJobName`: the name is as good a label value as the id, up to its length.
-/

namespace BuildYard

/-! ## Reading a name from its end -/

/-- What stands in a name in front of the last hyphen. A number below zero leaves the whole separator
there. -/
def beforeDigits (jobId : String) (seconds : Int) : List Char :=
  jobId.toList ++ "-deployment".toList ++ if seconds < 0 then ['-'] else []

theorem toList_buildJobName (jobId : String) (seconds : Int) :
    (buildJobName jobId seconds).toList =
      beforeDigits jobId seconds ++ '-' :: Text.decimal seconds.natAbs := by
  have hseparator : "-deployment-".toList = "-deployment".toList ++ ['-'] := by decide
  rw [buildJobName, String.toList_append, String.toList_append, hseparator, String.toList_ofList,
    beforeDigits, Text.signedDecimal]
  split <;> simp

/-- A text that ends in a hyphen and digits is cut in only one way. -/
theorem append_hyphen_inj {front front' digits digits' : List Char}
    (hdigits : '-' ∉ digits) (hdigits' : '-' ∉ digits')
    (h : front ++ '-' :: digits = front' ++ '-' :: digits') : front = front' ∧ digits = digits' := by
  -- If one front went beyond the other, its hyphen would stand among the digits of the other text.
  rcases List.append_eq_append_iff.1 h with ⟨between, rfl, htail⟩ | ⟨between, rfl, htail⟩
  · cases between with
    | nil => simpa using htail
    | cons c between =>
      obtain ⟨-, rfl⟩ := List.cons_eq_cons.1 htail
      exact absurd (by simp) hdigits
  · cases between with
    | nil => simpa [eq_comm] using htail
    | cons c between =>
      obtain ⟨-, rfl⟩ := List.cons_eq_cons.1 htail
      exact absurd (by simp) hdigits'

/-- The sign shows in the last character: a hyphen, or the end of the separator. -/
theorem getLast?_beforeDigits (jobId : String) (seconds : Int) :
    (beforeDigits jobId seconds).getLast? = some (if seconds < 0 then '-' else 't') := by
  have hseparator : "-deployment".toList = "-deploymen".toList ++ ['t'] := by decide
  rw [beforeDigits, hseparator]
  split <;> simp

theorem beforeDigits_inj {jobId jobId' : String} {seconds seconds' : Int}
    (h : beforeDigits jobId seconds = beforeDigits jobId' seconds') :
    jobId = jobId' ∧ (seconds < 0 ↔ seconds' < 0) := by
  have hlast := congrArg List.getLast? h
  rw [getLast?_beforeDigits, getLast?_beforeDigits] at hlast
  have hsign : seconds < 0 ↔ seconds' < 0 := by
    by_cases hneg : seconds < 0 <;> by_cases hneg' : seconds' < 0
    · simp [hneg, hneg']
    · simp [hneg, hneg'] at hlast
    · simp [hneg, hneg'] at hlast
    · simp [hneg, hneg']
  simp only [beforeDigits, hsign] at h
  exact ⟨String.toList_inj.1 (List.append_cancel_right (List.append_cancel_right h)), hsign⟩

theorem hyphen_not_mem_decimal (n : Nat) : '-' ∉ Text.decimal n := by
  intro h
  exact absurd (Text.isDigit_of_mem_decimal h) (by decide)

/-- **The name of a build tells the id of its job and its second.** -/
theorem buildJobName_inj {jobId jobId' : String} {seconds seconds' : Int} :
    buildJobName jobId seconds = buildJobName jobId' seconds' ↔
      jobId = jobId' ∧ seconds = seconds' := by
  constructor
  · intro h
    have hchars := congrArg String.toList h
    rw [toList_buildJobName, toList_buildJobName] at hchars
    obtain ⟨hfront, hdigits⟩ :=
      append_hyphen_inj (hyphen_not_mem_decimal _) (hyphen_not_mem_decimal _) hchars
    obtain ⟨hjob, hsign⟩ := beforeDigits_inj hfront
    have habs := Text.decimal_inj.1 hdigits
    exact ⟨hjob, by omega⟩
  · rintro ⟨rfl, rfl⟩
    rfl

/-! ## Label values -/

/-- What Kubernetes takes as the value of a label, the empty text left aside. -/
structure IsLabelValue (value : String) : Prop where
  short : value.utf8ByteSize ≤ 63
  inner : ∀ c ∈ value.toList, c.isAlphanum ∨ c = '-' ∨ c = '_' ∨ c = '.'
  starts : ∃ c, value.toList.head? = some c ∧ c.isAlphanum
  ends : ∃ c, value.toList.getLast? = some c ∧ c.isAlphanum

theorem labelFault?_eq_none_iff_isLabelValue {value : String} :
    labelFault? value = none ↔ IsLabelValue value := by
  rw [labelFault?_eq_none_iff]
  simp only [isLabelForm, Bool.and_eq_true, List.all_eq_true, Option.any_eq_true, isLabelInner,
    isLabelEdge, Bool.or_eq_true, beq_iff_eq, or_assoc]
  constructor
  · rintro ⟨hshort, ⟨hinner, hstarts⟩, hends⟩
    exact ⟨hshort, hinner, hstarts, hends⟩
  · rintro ⟨hshort, hinner, hstarts, hends⟩
    exact ⟨hshort, ⟨hinner, hstarts⟩, hends⟩

/-- The form of a label value is kept when inner characters are added to its end, the last of which
may stand there. -/
theorem isLabelForm_append {s t : List Char} (hs : isLabelForm s = true)
    (hinner : ∀ c ∈ t, isLabelInner c = true) (hlast : t.getLast?.any isLabelEdge = true) :
    isLabelForm (s ++ t) = true := by
  simp only [isLabelForm, Bool.and_eq_true, List.all_eq_true, Option.any_eq_true] at hs hlast ⊢
  obtain ⟨⟨hsinner, first, hfirst, hedge⟩, -⟩ := hs
  obtain ⟨last, hlast, hlastEdge⟩ := hlast
  refine ⟨⟨fun c hc => (List.mem_append.1 hc).elim (hsinner c) (hinner c), first, ?_, hedge⟩,
    last, ?_, hlastEdge⟩
  · rw [List.head?_append, hfirst, Option.some_or]
  · rw [List.getLast?_append, hlast, Option.some_or]

/-- An inner character takes one octet. -/
theorem utf8Size_of_isLabelInner {c : Char} (h : isLabelInner c = true) : c.utf8Size = 1 := by
  rw [Char.utf8Size_eq_one_iff, UInt32.le_iff_toNat_le]
  show c.toNat ≤ 127
  simp only [isLabelInner, Bool.or_eq_true, beq_iff_eq] at h
  rcases h with ((h | rfl) | rfl) | rfl
  · have hrange := Text.toNat_of_isAlphanum h
    omega
  all_goals decide

theorem utf8ByteSize_ofList_of_inner {s : List Char} (h : ∀ c ∈ s, isLabelInner c = true) :
    (String.ofList s).utf8ByteSize = s.length := by
  rw [String.utf8ByteSize_ofList]
  induction s with
  | nil => rfl
  | cons c s ih =>
    obtain ⟨hc, hs⟩ := List.forall_mem_cons.1 h
    rw [String.utf8Len_cons, ih hs, utf8Size_of_isLabelInner hc, List.length_cons]

/-! ## Names as label values -/

theorem isLabelEdge_of_mem_decimal {n : Nat} {c : Char} (h : c ∈ Text.decimal n) :
    isLabelEdge c = true := by
  simp [isLabelEdge, Char.isAlphanum, Text.isDigit_of_mem_decimal h]

/-- A printed number has nothing but a hyphen and digits in it. -/
theorem isLabelInner_of_mem_signedDecimal {seconds : Int} {c : Char}
    (h : c ∈ Text.signedDecimal seconds) : isLabelInner c = true := by
  have hdigit : ∀ {c}, c ∈ Text.decimal seconds.natAbs → isLabelInner c = true :=
    fun hc => isLabelInner_of_isLabelEdge (isLabelEdge_of_mem_decimal hc)
  unfold Text.signedDecimal at h
  split at h
  · rcases List.mem_cons.1 h with rfl | hc
    · decide
    · exact hdigit hc
  · exact hdigit h

/-- A printed number ends in a digit. -/
theorem getLast?_signedDecimal (seconds : Int) :
    (Text.signedDecimal seconds).getLast?.any isLabelEdge = true := by
  have hne := Text.decimal_ne_nil seconds.natAbs
  have hlast : (Text.signedDecimal seconds).getLast? =
      some ((Text.decimal seconds.natAbs).getLast hne) := by
    unfold Text.signedDecimal
    split
    · rw [List.getLast?_cons, List.getLast?_eq_some_getLast hne, Option.getD_some]
    · exact List.getLast?_eq_some_getLast hne
  rw [hlast]
  exact isLabelEdge_of_mem_decimal (List.getLast_mem hne)

/-- The octets of a name: the separator has twelve. -/
theorem utf8ByteSize_buildJobName (jobId : String) (seconds : Int) :
    (buildJobName jobId seconds).utf8ByteSize =
      jobId.utf8ByteSize + 12 + (toString seconds).length := by
  have hseparator : "-deployment-".utf8ByteSize = 12 := by decide
  rw [buildJobName, String.utf8ByteSize_append, String.utf8ByteSize_append, hseparator,
    utf8ByteSize_ofList_of_inner fun _ => isLabelInner_of_mem_signedDecimal,
    ← Text.signedDecimal_eq_toString, String.length_ofList]

/-- The name of a build has the form of a label value when the id of the job has it. -/
theorem isLabelForm_buildJobName {jobId : String} (h : isLabelForm jobId.toList = true)
    (seconds : Int) : isLabelForm (buildJobName jobId seconds).toList = true := by
  have hseparator : ∀ c ∈ "-deployment-".toList, isLabelInner c = true :=
    List.all_eq_true.1 (by decide)
  rw [buildJobName, String.append_assoc, String.toList_append, String.toList_append,
    String.toList_ofList (l := Text.signedDecimal seconds)]
  refine isLabelForm_append h (fun c hc => ?_) ?_
  · rcases List.mem_append.1 hc with hc | hc
    · exact hseparator c hc
    · exact isLabelInner_of_mem_signedDecimal hc
  · have hlast := getLast?_signedDecimal seconds
    rw [Option.any_eq_true] at hlast ⊢
    obtain ⟨c, hc, hedge⟩ := hlast
    rw [List.getLast?_append, hc]
    exact ⟨c, rfl, hedge⟩

/-- **The name of a build can only be too long.** -/
theorem labelFault?_buildJobName {jobId : String} (h : labelFault? jobId = none) (seconds : Int) :
    labelFault? (buildJobName jobId seconds) =
      if 63 < jobId.utf8ByteSize + 12 + (toString seconds).length then
        some (.tooLong (jobId.utf8ByteSize + 12 + (toString seconds).length))
      else none := by
  have hform := isLabelForm_buildJobName (labelFault?_eq_none_iff.1 h).2 seconds
  have hsize := utf8ByteSize_buildJobName jobId seconds
  split
  · rename_i hlong
    rw [labelFault?, if_neg (by omega), maxLabelOctets, hsize, if_pos hlong]
  · rename_i hshort
    refine labelFault?_eq_none_iff.2 ⟨?_, hform⟩
    rw [maxLabelOctets, hsize]
    exact Nat.le_of_not_lt hshort

end BuildYard

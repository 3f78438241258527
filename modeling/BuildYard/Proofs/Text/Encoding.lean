import BuildYard.Text.Percent
import Mathlib.Tactic.IntervalCases
/-!
# Texts that are encoded and read again

A text that is put into octets, into a percent-encoded segment or into a form is read again as it was.

* `decodeFrom_octets`: the octets of a text are read as its characters.
* `ofSegment?_percentEncode`: every text can stand in a path.
* `ofForm_toForm`: every text can stand in a form.
-/

namespace BuildYard.Text

/-! ## Octets -/

theorem toList_loop_eq (bs : ByteArray) (i : Nat) (before : List UInt8) :
    ByteArray.toList.loop bs i before = before.reverse ++ bs.data.toList.drop i := by
  fun_induction ByteArray.toList.loop bs i before with
  | case1 i before h ih =>
    have hi : i < bs.data.toList.length := by simpa using h
    rw [ih, List.drop_eq_getElem_cons hi]
    simp [ByteArray.get!, h]
  | case2 i before h =>
    rw [List.drop_eq_nil_of_le (by simpa using Nat.le_of_not_lt h), List.append_nil]

/-- The octets of a text are the octets of its characters, one after the other. -/
theorem octets_eq (s : List Char) : octets s = s.flatMap String.utf8EncodeChar := by
  rw [octets, String.toUTF8_eq_toByteArray, String.toByteArray_ofList, ByteArray.toList,
    toList_loop_eq, List.drop_zero]
  exact List.toList_data_toByteArray

theorem octets_nil : octets [] = [] := octets_eq []

theorem octets_append (s t : List Char) : octets (s ++ t) = octets s ++ octets t := by
  simp only [octets_eq, List.flatMap_append]

theorem octets_cons (c : Char) (s : List Char) : octets (c :: s) = octets [c] ++ octets s :=
  octets_append [c] s

/-- A character below U+0080 is one octet. -/
theorem octets_singleton {c : Char} (h : c.toNat < 0x80) : octets [c] = [UInt8.ofNat c.toNat] := by
  have hsmall : c.val.toNat ≤ 127 := by
    show c.toNat ≤ 127
    omega
  rw [octets_eq, List.flatMap_singleton, String.utf8EncodeChar, if_pos hsmall]
  rfl

/-! ## Characters -/

/-- The first of two octets. -/
theorem lead_two {k : Nat} (hlow : 2 ≤ k) (hhigh : k < 32) :
    Lead.of (UInt8.ofNat (k + 192)) = .opens { bits := k, missing := 1 } := by
  interval_cases k <;> rfl

/-- The first of three octets. It does not begin what fits in two, or a surrogate. -/
theorem lead_three {k : Nat} (h : k < 16) :
    Lead.of (UInt8.ofNat (k + 224)) = .opens {
      bits := k
      missing := 2
      low := if k = 0 then 0xA0 else 0x80
      high := if k = 13 then 0x9F else 0xBF } := by
  interval_cases k <;> rfl

/-- The first of four octets. It does not begin what fits in three, or what no character is. -/
theorem lead_four {k : Nat} (h : k < 5) :
    Lead.of (UInt8.ofNat (k + 240)) = .opens {
      bits := k
      missing := 3
      low := if k = 0 then 0x90 else 0x80
      high := if k = 4 then 0x8F else 0xBF } := by
  interval_cases k <;> rfl

/-- An octet that goes on with a character. -/
theorem extend?_next {o : Opening} {k : Nat} (hk : k < 64) (hlow : o.low.toNat ≤ k + 128)
    (hhigh : k + 128 ≤ o.high.toNat) :
    o.extend? (UInt8.ofNat (k + 128)) =
      if o.missing ≤ 1 then some (.inl (Char.ofNat (o.bits * 64 + k)))
      else some (.inr { bits := o.bits * 64 + k, missing := o.missing - 1 }) := by
  have hoctet : (UInt8.ofNat (k + 128)).toNat = k + 128 := by
    rw [UInt8.toNat_ofNat', Nat.mod_eq_of_lt (by omega)]
  have hin : (decide (UInt8.ofNat (k + 128) < o.low) || decide (o.high < UInt8.ofNat (k + 128))) =
      false := by
    simp only [UInt8.lt_iff_toNat_lt, hoctet, Bool.or_eq_false_iff, decide_eq_false_iff_not]
    omega
  rw [Opening.extend?, hin, hoctet, Nat.add_sub_cancel]
  rfl

theorem low_le (k : Nat) : (0x80 : UInt8).toNat ≤ k + 128 := Nat.le_add_left 128 k

theorem le_high {k : Nat} (hk : k < 64) : k + 128 ≤ (0xBF : UInt8).toNat := by
  show k + 128 ≤ 191
  omega

theorem decodeFrom_opens {b : UInt8} {o : Opening} (h : Lead.of b = .opens o) (rest : List UInt8) :
    decodeFrom none (b :: rest) = decodeFrom (some o) rest := by
  simp [decodeFrom, h]

theorem decodeFrom_goes {o : Opening} {k : Nat} (hmore : 1 < o.missing) (hk : k < 64)
    (hlow : o.low.toNat ≤ k + 128) (hhigh : k + 128 ≤ o.high.toNat) (rest : List UInt8) :
    decodeFrom (some o) (UInt8.ofNat (k + 128) :: rest) =
      decodeFrom (some { bits := o.bits * 64 + k, missing := o.missing - 1 }) rest := by
  rw [decodeFrom, Option.bind_some, extend?_next hk hlow hhigh, if_neg (Nat.not_le_of_lt hmore)]

theorem decodeFrom_ends {o : Opening} {k : Nat} (hlast : o.missing = 1) (hk : k < 64)
    (hlow : o.low.toNat ≤ k + 128) (hhigh : k + 128 ≤ o.high.toNat) (rest : List UInt8) :
    decodeFrom (some o) (UInt8.ofNat (k + 128) :: rest) =
      some (Char.ofNat (o.bits * 64 + k)) :: decodeFrom none rest := by
  rw [decodeFrom, Option.bind_some, extend?_next hk hlow hhigh, if_pos (Nat.le_of_eq hlast)]

/-- One octet, of a character below U+0080. -/
theorem decodeFrom_one {v : Nat} (h : v < 0x80) (rest : List UInt8) :
    decodeFrom none (UInt8.ofNat v :: rest) = some (Char.ofNat v) :: decodeFrom none rest := by
  have hoctet : (UInt8.ofNat v).toNat = v := by
    rw [UInt8.toNat_ofNat', Nat.mod_eq_of_lt (by omega)]
  have hsmall : UInt8.ofNat v < 0x80 := by
    rw [UInt8.lt_iff_toNat_lt, hoctet]
    exact h
  have hlead : Lead.of (UInt8.ofNat v) = .whole (Char.ofNat v) := by
    rw [Lead.of, if_pos hsmall, hoctet]
  simp [decodeFrom, hlead]

/-- Two octets, of a character from U+0080 on. -/
theorem decodeFrom_two {v : Nat} (hleast : 0x80 ≤ v) (hmost : v < 0x800) (rest : List UInt8) :
    decodeFrom none (UInt8.ofNat (v / 64 % 32 + 192) :: UInt8.ofNat (v % 64 + 128) :: rest) =
      some (Char.ofNat v) :: decodeFrom none rest := by
  have hlead := lead_two (k := v / 64 % 32) (by omega) (by omega)
  have hlast : v % 64 < 64 := Nat.mod_lt v (by decide)
  have hbits : v / 64 % 32 * 64 + v % 64 = v := by omega
  rw [decodeFrom_opens hlead, decodeFrom_ends rfl hlast (low_le _) (le_high hlast), hbits]

/-- Three octets, of a character from U+0800 on that is no surrogate. -/
theorem decodeFrom_three {v : Nat} (hleast : 0x800 ≤ v) (hmost : v < 0x10000)
    (hvalid : v < 0xD800 ∨ 0xDFFF < v) (rest : List UInt8) :
    decodeFrom none (UInt8.ofNat (v / 4096 % 16 + 224) :: UInt8.ofNat (v / 64 % 64 + 128) ::
        UInt8.ofNat (v % 64 + 128) :: rest) =
      some (Char.ofNat v) :: decodeFrom none rest := by
  have hlead := lead_three (k := v / 4096 % 16) (by omega)
  have hsecond : v / 64 % 64 < 64 := Nat.mod_lt _ (by decide)
  have hlast : v % 64 < 64 := Nat.mod_lt v (by decide)
  have hlow : (if v / 4096 % 16 = 0 then (0xA0 : UInt8) else 0x80).toNat ≤ v / 64 % 64 + 128 := by
    split
    · show 160 ≤ _
      omega
    · exact low_le _
  have hhigh : v / 64 % 64 + 128 ≤
      (if v / 4096 % 16 = 13 then (0x9F : UInt8) else 0xBF).toNat := by
    split
    · show _ ≤ 159
      omega
    · exact le_high hsecond
  have hbits : (v / 4096 % 16 * 64 + v / 64 % 64) * 64 + v % 64 = v := by omega
  rw [decodeFrom_opens hlead, decodeFrom_goes (by simp) hsecond hlow hhigh,
    decodeFrom_ends rfl hlast (low_le _) (le_high hlast), hbits]

/-- Four octets, of a character from U+10000 on. -/
theorem decodeFrom_four {v : Nat} (hleast : 0x10000 ≤ v) (hmost : v < 0x110000)
    (rest : List UInt8) :
    decodeFrom none (UInt8.ofNat (v / 262144 % 8 + 240) :: UInt8.ofNat (v / 4096 % 64 + 128) ::
        UInt8.ofNat (v / 64 % 64 + 128) :: UInt8.ofNat (v % 64 + 128) :: rest) =
      some (Char.ofNat v) :: decodeFrom none rest := by
  have hlead := lead_four (k := v / 262144 % 8) (by omega)
  have hsecond : v / 4096 % 64 < 64 := Nat.mod_lt _ (by decide)
  have hthird : v / 64 % 64 < 64 := Nat.mod_lt _ (by decide)
  have hlast : v % 64 < 64 := Nat.mod_lt v (by decide)
  have hlow : (if v / 262144 % 8 = 0 then (0x90 : UInt8) else 0x80).toNat ≤
      v / 4096 % 64 + 128 := by
    split
    · show 144 ≤ _
      omega
    · exact low_le _
  have hhigh : v / 4096 % 64 + 128 ≤
      (if v / 262144 % 8 = 4 then (0x8F : UInt8) else 0xBF).toNat := by
    split
    · show _ ≤ 143
      omega
    · exact le_high hsecond
  have hbits : ((v / 262144 % 8 * 64 + v / 4096 % 64) * 64 + v / 64 % 64) * 64 + v % 64 = v := by
    omega
  rw [decodeFrom_opens hlead, decodeFrom_goes (by simp) hsecond hlow hhigh,
    decodeFrom_goes (by simp) hthird (low_le _) (le_high hthird),
    decodeFrom_ends rfl hlast (low_le _) (le_high hlast), hbits]

/-- The octets of a character are read as the character. -/
theorem decodeFrom_utf8EncodeChar (c : Char) (rest : List UInt8) :
    decodeFrom none (String.utf8EncodeChar c ++ rest) = some c :: decodeFrom none rest := by
  have hvalid : c.val.toNat < 0xD800 ∨ (0xDFFF < c.val.toNat ∧ c.val.toNat < 0x110000) := c.valid
  have hchar : Char.ofNat c.val.toNat = c := Char.ofNat_toNat c
  rw [String.utf8EncodeChar]
  generalize c.val.toNat = v at hvalid hchar
  rw [← hchar]
  split
  · exact decodeFrom_one (by omega) rest
  · split
    · exact decodeFrom_two (v := v) (by omega) (by omega) rest
    · split
      · exact decodeFrom_three (v := v) (by omega) (by omega) (by omega) rest
      · exact decodeFrom_four (v := v) (by omega) (by omega) rest

/-- The octets of a text are read as its characters. -/
theorem decodeFrom_octets (s : List Char) : decodeFrom none (octets s) = s.map some := by
  rw [octets_eq]
  induction s with
  | nil => rfl
  | cons c s ih => rw [List.flatMap_cons, decodeFrom_utf8EncodeChar, ih, List.map_cons]

theorem ofOctets?_octets (s : List Char) : ofOctets? (octets s) = some s := by
  rw [ofOctets?, decodeFrom_octets]
  induction s with
  | nil => rfl
  | cons c s ih => simp [List.mapM_cons, ih]

theorem ofOctetsLenient_octets (s : List Char) : ofOctetsLenient (octets s) = s := by
  rw [ofOctetsLenient, decodeFrom_octets, List.map_map]
  exact List.map_id s

/-! ## Percent signs -/

/-- The octets, each as a percent sign and two upper-case hexadecimal digits. -/
def percentEncode (bs : List UInt8) : List Char :=
  bs.flatMap fun b => '%' :: (hexPadded 2 b.toNat).map Char.toUpper

/-- An upper-case hexadecimal digit. -/
def hexDigit (k : Nat) : Char := (Nat.digitChar k).toUpper

theorem map_toUpper_hexPadded {n : Nat} (h : n < 256) :
    (hexPadded 2 n).map Char.toUpper = [hexDigit (n / 16), hexDigit (n % 16)] := by
  have hall : ∀ n < 256, (hexPadded 2 n).map Char.toUpper = [hexDigit (n / 16), hexDigit (n % 16)] := by
    decide +kernel
  exact hall n h

theorem hexDigit_cases {k : Nat} (h : k < 16) :
    hexValue? (hexDigit k) = some k ∧ (hexDigit k).toNat < 0x80 ∧ isFormPlain (hexDigit k) = true := by
  have hall : ∀ k < 16, hexValue? (hexDigit k) = some k ∧ (hexDigit k).toNat < 0x80 ∧
      isFormPlain (hexDigit k) = true := by
    decide
  exact hall k h

/-- A digit as its octet, and as the character that the octet is. -/
theorem octets_hexDigit {k : Nat} (h : k < 16) :
    octets [hexDigit k] = [UInt8.ofNat (hexDigit k).toNat] ∧
      Char.ofNat (UInt8.ofNat (hexDigit k).toNat).toNat = hexDigit k := by
  have hsmall := (hexDigit_cases h).2.1
  refine ⟨octets_singleton hsmall, ?_⟩
  rw [UInt8.toNat_ofNat', Nat.mod_eq_of_lt (by omega), Char.ofNat_toNat]

theorem percentDecode_of_ne {b : UInt8} (h : b ≠ 0x25) (rest : List UInt8) :
    percentDecode (b :: rest) = b :: percentDecode rest := by
  match rest with
  | [] => rfl
  | [_] => rfl
  | _ :: _ :: _ => rw [percentDecode, if_neg h]

/-- The octets of a percent sign with two digits. -/
theorem octets_percentEncode_cons (b : UInt8) (bs : List UInt8) :
    octets (percentEncode (b :: bs)) =
      0x25 :: UInt8.ofNat (hexDigit (b.toNat / 16)).toNat ::
        UInt8.ofNat (hexDigit (b.toNat % 16)).toNat :: octets (percentEncode bs) := by
  have hb : b.toNat < 256 := b.toNat_lt
  have hsign : octets ['%'] = [0x25] := octets_singleton (by decide)
  rw [percentEncode, List.flatMap_cons, ← percentEncode, map_toUpper_hexPadded hb,
    octets_append, octets_cons, octets_cons (hexDigit (b.toNat / 16)), hsign,
    (octets_hexDigit (by omega)).1, (octets_hexDigit (by omega)).1]
  rfl

theorem percentDecode_percentEncode (bs rest : List UInt8) :
    percentDecode (octets (percentEncode bs) ++ rest) = bs ++ percentDecode rest := by
  induction bs with
  | nil => rw [percentEncode, List.flatMap_nil, octets_nil, List.nil_append, List.nil_append]
  | cons b bs ih =>
    have hb : b.toNat < 256 := b.toNat_lt
    have hfirst : b.toNat / 16 < 16 := by omega
    have hsecond : b.toNat % 16 < 16 := by omega
    have hoctet : UInt8.ofNat (16 * (b.toNat / 16) + b.toNat % 16) = b := by
      rw [Nat.div_add_mod, UInt8.ofNat_toNat]
    rw [octets_percentEncode_cons, List.cons_append, List.cons_append, List.cons_append,
      percentDecode, if_pos rfl, (octets_hexDigit hfirst).2, (octets_hexDigit hsecond).2,
      (hexDigit_cases hfirst).1, (hexDigit_cases hsecond).1]
    dsimp only
    rw [hoctet, ih, List.cons_append]

/-- **Every text can stand in a path**, with its octets behind percent signs. -/
theorem ofSegment?_percentEncode (s : List Char) :
    ofSegment? (percentEncode (octets s)) = some s := by
  have hread := percentDecode_percentEncode (octets s) []
  rw [List.append_nil, percentDecode, List.append_nil] at hread
  rw [ofSegment?, hread, ofOctets?_octets]

/-- Only a percent sign has the octet of one. -/
theorem eq_percent_of_mem {c : Char} (h : 0x25 ∈ String.utf8EncodeChar c) : c = '%' := by
  have hchar : Char.ofNat c.val.toNat = c := Char.ofNat_toNat c
  have hoctet : ∀ {n : Nat}, (0x25 : UInt8) = UInt8.ofNat n → n % 256 = 37 := fun hn => by
    rw [← UInt8.toNat_ofNat', ← hn]
    rfl
  rw [String.utf8EncodeChar] at h
  generalize c.val.toNat = v at h hchar
  -- All octets of a character that has more than one are above those of ASCII.
  have hone : v = 37 := by
    split at h
    · have hv := hoctet (List.mem_singleton.1 h)
      omega
    · exfalso
      split at h
      · simp only [List.mem_cons, List.not_mem_nil, or_false] at h
        rcases h with h | h <;> have hv := hoctet h <;> omega
      · split at h
        · simp only [List.mem_cons, List.not_mem_nil, or_false] at h
          rcases h with h | h | h <;> have hv := hoctet h <;> omega
        · simp only [List.mem_cons, List.not_mem_nil, or_false] at h
          rcases h with h | h | h | h <;> have hv := hoctet h <;> omega
  rw [← hchar, hone]

/-- A text without percent signs stands in a path for itself. -/
theorem ofSegment?_of_not_mem {s : List Char} (h : '%' ∉ s) : ofSegment? s = some s := by
  have hplain : percentDecode (octets s) = octets s := by
    have hoctets : ∀ b ∈ octets s, b ≠ 0x25 := by
      rw [octets_eq]
      rintro b hb rfl
      obtain ⟨c, hc, hmem⟩ := List.mem_flatMap.1 hb
      rw [eq_percent_of_mem hmem] at hc
      exact h hc
    generalize octets s = bs at hoctets
    induction bs with
    | nil => rfl
    | cons b bs ih =>
      rw [percentDecode_of_ne (hoctets b List.mem_cons_self),
        ih fun b hb => hoctets b (List.mem_cons_of_mem _ hb)]
  rw [ofSegment?, hplain, ofOctets?_octets]

/-! ## Forms -/

/-- In a form a plus sign is a space. -/
def plusToSpace (b : UInt8) : UInt8 := if b = 0x2B then 0x20 else b

theorem map_plusToSpace_percentEncode (bs : List UInt8) :
    (octets (percentEncode bs)).map plusToSpace = octets (percentEncode bs) := by
  induction bs with
  | nil => rw [percentEncode, List.flatMap_nil, octets_nil, List.map_nil]
  | cons b bs ih =>
    have hb : b.toNat < 256 := b.toNat_lt
    have hdigit : ∀ k < 16, plusToSpace (UInt8.ofNat (hexDigit k).toNat) =
        UInt8.ofNat (hexDigit k).toNat := by decide
    rw [octets_percentEncode_cons, List.map_cons, List.map_cons, List.map_cons, ih,
      hdigit _ (by omega), hdigit _ (by omega)]
    rfl

/-- A character that stands for itself in a form. -/
theorem isFormPlain_cases {c : Char} (h : isFormPlain c = true) :
    c.toNat < 0x80 ∧ c ∉ ['+', '%'] := by
  simp only [isFormPlain, Bool.or_eq_true, beq_iff_eq] at h
  rcases h with (((h | rfl) | rfl) | rfl) | rfl
  · have hrange := toNat_of_isAlphanum h
    refine ⟨by omega, fun hmem => ?_⟩
    simp only [List.mem_cons, List.not_mem_nil, or_false] at hmem
    rcases hmem with rfl | rfl <;> revert hrange <;> decide
  all_goals decide

theorem octet_ne {c d : Char} (hc : c.toNat < 0x80) (hd : d.toNat < 0x80) (h : c ≠ d) :
    UInt8.ofNat c.toNat ≠ UInt8.ofNat d.toNat := by
  intro heq
  have hsame := congrArg UInt8.toNat heq
  rw [UInt8.toNat_ofNat', UInt8.toNat_ofNat', Nat.mod_eq_of_lt (by omega),
    Nat.mod_eq_of_lt (by omega)] at hsame
  exact h (by rw [← Char.ofNat_toNat c, hsame, Char.ofNat_toNat])

/-- A character in a form is read as its octets. -/
theorem percentDecode_toForm_cons (c : Char) (s : List Char) :
    percentDecode ((octets (toForm (c :: s))).map plusToSpace) =
      octets [c] ++ percentDecode ((octets (toForm s)).map plusToSpace) := by
  rw [toForm, List.flatMap_cons, ← toForm, octets_append, List.map_append]
  split
  · rename_i hplain
    obtain ⟨hsmall, hne⟩ := isFormPlain_cases hplain
    have hplus : UInt8.ofNat c.toNat ≠ 0x2B :=
      octet_ne (d := '+') hsmall (by decide) (fun h => hne (by simp [h]))
    have hpercent : UInt8.ofNat c.toNat ≠ 0x25 :=
      octet_ne (d := '%') hsmall (by decide) (fun h => hne (by simp [h]))
    rw [octets_singleton hsmall, List.map_singleton, plusToSpace, if_neg hplus, List.singleton_append,
      percentDecode_of_ne hpercent, List.singleton_append]
  · split
    · rename_i hspace
      have hplus : octets ['+'] = [0x2B] := octets_singleton (by decide)
      have hoctet : octets [' '] = [0x20] := octets_singleton (by decide)
      rw [beq_iff_eq.1 hspace, hplus, hoctet, List.map_singleton, plusToSpace, if_pos rfl,
        List.singleton_append, percentDecode_of_ne (by decide), List.singleton_append]
    · rw [← percentEncode, map_plusToSpace_percentEncode, percentDecode_percentEncode]

/-- **Every text can stand in a form.** -/
theorem ofForm_toForm (s : List Char) : ofForm (toForm s) = s := by
  have hread : percentDecode ((octets (toForm s)).map plusToSpace) = octets s := by
    induction s with
    | nil => rw [toForm, List.flatMap_nil, octets_nil, List.map_nil, percentDecode]
    | cons c s ih => rw [percentDecode_toForm_cons, ih, octets_cons c s]
  show ofOctetsLenient (percentDecode ((octets (toForm s)).map plusToSpace)) = s
  rw [hread, ofOctetsLenient_octets]

/-! ## What is not in an encoded text -/

/-- Percent signs and digits are all that there is in a percent-encoded text. -/
theorem not_mem_percentEncode {c : Char} (hplain : isFormPlain c = false) (hsign : c ≠ '%')
    (bs : List UInt8) : c ∉ percentEncode bs := by
  intro h
  have hdigit : ∀ k < 16, c ≠ hexDigit k := by
    rintro k hk rfl
    rw [(hexDigit_cases hk).2.2] at hplain
    cases hplain
  obtain ⟨b, -, hc⟩ := List.mem_flatMap.1 h
  have hb : b.toNat < 256 := b.toNat_lt
  rw [map_toUpper_hexPadded hb] at hc
  simp only [List.mem_cons, List.not_mem_nil, or_false] at hc
  rcases hc with hc | hc | hc
  · exact hsign hc
  · exact hdigit _ (by omega) hc
  · exact hdigit _ (by omega) hc

/-- A form has plus signs besides, and the characters that stand for themselves. -/
theorem not_mem_toForm {c : Char} (hplain : isFormPlain c = false) (hsign : c ≠ '%')
    (hplus : c ≠ '+') (s : List Char) : c ∉ toForm s := by
  intro h
  obtain ⟨d, -, hc⟩ := List.mem_flatMap.1 h
  split at hc
  · rename_i hd
    rw [← List.mem_singleton.1 hc, hplain] at hd
    cases hd
  · split at hc
    · exact hplus (List.mem_singleton.1 hc)
    · exact not_mem_percentEncode hplain hsign _ hc

end BuildYard.Text

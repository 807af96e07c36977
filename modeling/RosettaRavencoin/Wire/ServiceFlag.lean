/-
  RosettaRavencoin.Wire.ServiceFlag — `ServiceFlag.String` is a faithful rendering.

  The named flags are the bits `flagAt i`, `i < 8`. The loop's invariant
  (`foldl_stringStep`): after the first `k` named flags, the text holds the names of
  those set in `f`, each with a `|`, and the flags not yet named are `f - f % 2 ^ k`. So
  after the eight, what is left is `f &^ 0xff`, and the trims turn the text into the
  names joined by `|`.

  Proved:
  - `string_eq_intercalate`: for `f ≠ 0`, `String` joins `serviceFlagFields f` with `|`.
  - `parseServiceFlag_string`: every rendering reads back as its flag, the names as the
    eight low bits (`sum_names`) and the hex field as the rest (`sum_rest`).
  - `serviceFlag_string_faithful`: `0x0` exactly for no flag, the fields for any other,
    and no two flags rendered alike.
-/

import Mathlib.Data.Nat.Bitwise
import RosettaRavencoin.Wire.Protocol

namespace RosettaRavencoin.Wire

open Go

/-- The named flag of bit `i`. -/
def flagAt (i : Nat) : ServiceFlag := UInt64.ofNat (2 ^ i)

theorem orderedSFStrings_eq : orderedSFStrings = (List.range' 0 8).map flagAt := by decide

theorem toNat_flagAt {i : Nat} (hi : i < 64) : (flagAt i).toNat = 2 ^ i :=
  UInt64.toNat_ofNat_of_lt (Nat.pow_lt_pow_right (by decide) hi)

/-! ## Bits -/

theorem and_two_pow_eq_iff (x i : Nat) : x &&& 2 ^ i = 2 ^ i ↔ x.testBit i = true := by
  rw [Nat.and_two_pow]
  cases x.testBit i <;> simp [(Nat.two_pow_pos i).ne]

theorem and_flagAt (c : ServiceFlag) {i : Nat} (hi : i < 64) :
    (c &&& flagAt i == flagAt i) = c.toNat.testBit i := by
  have : (c &&& flagAt i = flagAt i) ↔ c.toNat &&& 2 ^ i = 2 ^ i := by
    rw [← toNat_flagAt hi, ← UInt64.and_toNat]
    exact ⟨congrArg _, UInt64.toNat.inj⟩
  rw [Bool.eq_iff_iff, beq_iff_eq, this, and_two_pow_eq_iff]

theorem mod_two_pow_succ_testBit (m k : Nat) :
    m % 2 ^ (k + 1) = m % 2 ^ k + if m.testBit k then 2 ^ k else 0 := by
  rw [Nat.mod_pow_succ, Nat.testBit_to_div_mod]
  rcases Nat.mod_two_eq_zero_or_one (m / 2 ^ k) with h | h <;> simp [h]

theorem testBit_sub_mod (m k i : Nat) :
    (m - m % 2 ^ k).testBit i = (decide (k ≤ i) && m.testBit i) := by
  have : m - m % 2 ^ k = 2 ^ k * (m / 2 ^ k) := by have := Nat.div_add_mod m (2 ^ k); omega
  rw [this, Nat.testBit_mul_pow_two, ← Nat.shiftRight_eq_div_pow, Nat.testBit_shiftRight]
  by_cases h : k ≤ i
  · simp [h, Nat.add_sub_cancel' h]
  · simp [h]

/-- `f &^ 0xff` is `f` with its eight low bits cleared. -/
theorem toNat_and_not_0xff (f : ServiceFlag) :
    (f &&& ~~~0xff).toNat = f.toNat - f.toNat % 2 ^ 8 := by
  have hm : (~~~(0xff : ServiceFlag)).toNat = 2 ^ 8 * (2 ^ 56 - 1) := rfl
  rw [UInt64.and_toNat, hm]
  apply Nat.eq_of_testBit_eq
  intro i
  rw [testBit_sub_mod, Nat.testBit_and, Nat.testBit_mul_pow_two, Nat.testBit_two_pow_sub_one]
  by_cases h : i < 64
  · by_cases h8 : 8 ≤ i <;> simp [h8, Bool.and_comm, show i - 8 < 56 by omega]
  · have hlt : f.toNat < 2 ^ i := calc
      f.toNat < 2 ^ 64 := UInt64.toNat_lt_size f
      _ ≤ 2 ^ i := Nat.pow_le_pow_right (by decide) (by omega)
    simp [Nat.testBit_lt_two_pow hlt]

/-! ## The loop -/

theorem stringStep_flagAt (f : ServiceFlag) {k : Nat} (hk : k < 64) (s : String)
    {c : ServiceFlag} (hc : c.toNat = f.toNat - f.toNat % 2 ^ k) :
    (stringStep (s, c) (flagAt k)).1 =
        (if f.toNat.testBit k then s ++ sfString (flagAt k) ++ "|" else s) ∧
      (stringStep (s, c) (flagAt k)).2.toNat = f.toNat - f.toNat % 2 ^ (k + 1) := by
  have hbit : (c &&& flagAt k == flagAt k) = f.toNat.testBit k := by
    rw [and_flagAt c hk, hc, testBit_sub_mod]; simp
  have hs := mod_two_pow_succ_testBit f.toNat k
  have hle := Nat.mod_le f.toNat (2 ^ (k + 1))
  simp only [stringStep, hbit]
  cases hb : f.toNat.testBit k
  · simp only [hb, Bool.false_eq_true, if_false, true_and, hc, Nat.add_zero] at hs ⊢
    rw [hs]
  · simp only [hb, if_true] at hs
    rw [hs] at hle
    have hflag : flagAt k ≤ c := by
      rw [UInt64.le_def, BitVec.le_def, ← UInt64.toNat, ← UInt64.toNat, toNat_flagAt hk, hc]
      omega
    simp only [if_true, true_and, UInt64.toNat_sub_of_le _ _ hflag, toNat_flagAt hk, hc, hs]
    omega

/-- The loop's invariant: after the named flags `k` to `k + n - 1`, the text has gained
    the name of each one set in `f` and a `|`, and the flags left are `f - f % 2 ^ (k + n)`. -/
theorem foldl_stringStep (f : ServiceFlag) :
    ∀ n k (s : String) (c : ServiceFlag), k + n ≤ 64 → c.toNat = f.toNat - f.toNat % 2 ^ k →
      (((List.range' k n).map flagAt).foldl stringStep (s, c)).1.data =
          s.data ++ ((((List.range' k n).filter f.toNat.testBit).map flagAt).map
            fun flag => (sfString flag).data ++ ['|']).flatten ∧
        (((List.range' k n).map flagAt).foldl stringStep (s, c)).2.toNat =
          f.toNat - f.toNat % 2 ^ (k + n) := by
  intro n
  induction n with
  | zero => intro k s c _ hc; simp [hc]
  | succ n ih =>
    intro k s c hkn hc
    obtain ⟨h1, h2⟩ := stringStep_flagAt f (by omega : k < 64) s hc
    obtain ⟨ih1, ih2⟩ := ih (k + 1) _ _ (by omega) h2
    rw [List.range'_succ, List.map_cons, List.foldl_cons,
      ← Prod.mk.eta (p := stringStep (s, c) (flagAt k))]
    refine ⟨?_, by rw [ih2, Nat.add_right_comm, Nat.add_assoc]⟩
    rw [ih1, h1, List.filter_cons]
    cases f.toNat.testBit k <;> simp

/-! ## The rendering -/

/-- The fields `String` joins with `|` for a nonzero `f`, in the spec's words: the names of
    the named flags set in `f`, in `orderedSFStrings` order, then `0x` and the hex of `f`
    with the eight named bits cleared, when that is not zero. -/
def serviceFlagFields (f : ServiceFlag) : List String :=
  (orderedSFStrings.filter (fun flag => f &&& flag == flag)).map sfString ++
    if f &&& ~~~0xff ≠ 0 then ["0x" ++ formatUint (f &&& ~~~0xff) 16] else []

theorem filter_orderedSFStrings (f : ServiceFlag) :
    orderedSFStrings.filter (fun flag => f &&& flag == flag) =
      ((List.range' 0 8).filter f.toNat.testBit).map flagAt := by
  rw [orderedSFStrings_eq, List.filter_map]
  congr 1
  exact List.filter_congr fun i hi => and_flagAt f (by simp at hi; omega)

theorem sfString_isBarField : ∀ flag ∈ orderedSFStrings, IsBarField (sfString flag) := by
  unfold IsBarField; decide

theorem hex_isBarField (x : UInt64) : IsBarField ("0x" ++ formatUint x 16) := by
  have hd : ∀ d < 16, Nat.digitChar d ≠ '|' := by decide
  refine ⟨by simp, fun h => ?_⟩
  simp only [String.data_append, List.mem_append] at h
  rcases h with h | h
  · exact absurd h (by decide)
  · obtain ⟨d, hd16, he⟩ := mem_formatUint (by decide) h
    exact hd d hd16 he.symm

theorem serviceFlagFields_isBarField (f : ServiceFlag) :
    ∀ x ∈ serviceFlagFields f, IsBarField x := by
  intro x hx
  simp only [serviceFlagFields, List.mem_append, List.mem_map] at hx
  rcases hx with ⟨flag, hflag, rfl⟩ | hx
  · exact sfString_isBarField flag (List.mem_of_mem_filter hflag)
  · split at hx
    · rw [List.mem_singleton.1 hx]; exact hex_isBarField _
    · cases hx

/-- `String` of a nonzero flag joins its fields with `|`. -/
theorem string_eq_intercalate {f : ServiceFlag} (hf : f ≠ 0) :
    f.string = "|".intercalate (serviceFlagFields f) := by
  obtain ⟨h1, h2⟩ := foldl_stringStep f 8 0 "" f (by omega)
    (by rw [Nat.pow_zero, Nat.mod_one, Nat.sub_zero])
  rw [← orderedSFStrings_eq, ← filter_orderedSFStrings] at h1
  rw [← orderedSFStrings_eq, Nat.zero_add, ← toNat_and_not_0xff] at h2
  set N := (orderedSFStrings.filter (fun flag => f &&& flag == flag)).map sfString
  have hN : ∀ n ∈ N, IsBarField n := fun n hn =>
    serviceFlagFields_isBarField f n (List.mem_append_left _ hn)
  rcases hacc : orderedSFStrings.foldl stringStep ("", f) with ⟨s, c⟩
  rw [hacc] at h1 h2
  have hs : s = ⟨(N.map (·.data ++ ['|'])).flatten⟩ := String.ext (by simpa [N] using h1)
  have hc : c = f &&& ~~~0xff := UInt64.toNat.inj h2
  simp only [ServiceFlag.string, hf, if_false, hacc, hs, trimRight_fields N hN, hc,
    serviceFlagFields]
  split
  · rw [String.append_assoc, show "|0x" = "|" ++ "0x" from rfl, String.append_assoc,
      ← String.append_assoc, trimLeft_intercalate_bar N hN (hex_isBarField _)]
  · rw [List.append_nil, trimLeft_intercalate N hN]

/-! ## Reading a rendering back -/

/-- The value of one field of a rendering: the flag it names, or the number after `0x`. -/
def fieldValue (x : List Char) : Nat :=
  match orderedSFStrings.find? (fun flag => (sfString flag).data == x) with
  | some flag => flag.toNat
  | none => digitsValue 16 (x.drop 2)

/-- A rendering read back: the sum of the values of its `|`-separated fields. -/
def parseServiceFlag (s : String) : Nat := ((s.data.splitOn '|').map fieldValue).sum

theorem fieldValue_sfString :
    ∀ flag ∈ orderedSFStrings, fieldValue (sfString flag).data = flag.toNat := by
  decide

theorem fieldValue_hex (x : UInt64) : fieldValue ("0x" ++ formatUint x 16).data = x.toNat := by
  have hS : ∀ flag ∈ orderedSFStrings, (sfString flag).data.head? = some 'S' := by decide
  have hnone : orderedSFStrings.find?
      (fun flag => (sfString flag).data == ("0x" ++ formatUint x 16).data) = none :=
    List.find?_eq_none.2 fun flag hflag heq => by
      have h0 : ("0x" ++ formatUint x 16).data.head? = some '0' := rfl
      have := hS flag hflag
      rw [beq_iff_eq.1 heq, h0] at this
      exact absurd (Option.some.inj this) (by decide)
  rw [fieldValue, hnone]
  exact digitsValue_formatUint x (by decide) (by decide)

theorem sum_filter_testBit (m : Nat) :
    ∀ n k, (((List.range' k n).filter m.testBit).map (2 ^ ·)).sum + m % 2 ^ k = m % 2 ^ (k + n)
  | 0, k => by simp
  | n + 1, k => by
    have ih := sum_filter_testBit m n (k + 1)
    have hs := mod_two_pow_succ_testBit m k
    rw [List.range'_succ, List.filter_cons, show k + (n + 1) = k + 1 + n by omega]
    cases hb : m.testBit k
    · simp only [hb, Bool.false_eq_true, if_false, Nat.add_zero] at hs ⊢; omega
    · simp only [hb, if_true, List.map_cons, List.sum_cons] at hs ⊢; omega

theorem parseServiceFlag_intercalate (xs : List String) (h : ∀ x ∈ xs, IsBarField x) :
    parseServiceFlag ("|".intercalate xs) = (xs.map (fieldValue ∘ String.data)).sum := by
  by_cases hxs : xs = []
  · subst hxs; decide
  · have hsplit := List.splitOn_intercalate (xs.map String.data) '|'
      (fun l hl => by obtain ⟨x, hx, rfl⟩ := List.mem_map.1 hl; exact (h x hx).2)
      (by simpa using hxs)
    rw [parseServiceFlag, data_intercalate, show "|".data = ['|'] from rfl, hsplit, List.map_map]

/-- The names in a rendering read back as the eight low bits of the flag. -/
theorem sum_names (f : ServiceFlag) :
    (((orderedSFStrings.filter fun flag => f &&& flag == flag).map sfString).map
      (fieldValue ∘ String.data)).sum = f.toNat % 2 ^ 8 := by
  have e1 : (orderedSFStrings.filter fun flag => f &&& flag == flag).map
      ((fieldValue ∘ String.data) ∘ sfString) =
        (orderedSFStrings.filter fun flag => f &&& flag == flag).map UInt64.toNat :=
    List.map_congr_left fun flag hflag => fieldValue_sfString flag (List.mem_of_mem_filter hflag)
  have e2 : ((List.range' 0 8).filter f.toNat.testBit).map (UInt64.toNat ∘ flagAt) =
      ((List.range' 0 8).filter f.toNat.testBit).map (2 ^ ·) :=
    List.map_congr_left fun i hi => toNat_flagAt (by simp at hi; omega)
  have hsum := sum_filter_testBit f.toNat 8 0
  rw [Nat.pow_zero, Nat.mod_one, Nat.add_zero, Nat.zero_add] at hsum
  rw [List.map_map, e1, filter_orderedSFStrings, List.map_map, e2, hsum]

/-- The hex field, when there is one, reads back as the flag with its named bits cleared. -/
theorem sum_rest (f : ServiceFlag) :
    ((if f &&& ~~~0xff ≠ 0 then ["0x" ++ formatUint (f &&& ~~~0xff) 16] else []).map
      (fieldValue ∘ String.data)).sum = f.toNat - f.toNat % 2 ^ 8 := by
  rw [← toNat_and_not_0xff]
  split
  · simp only [List.map_cons, List.map_nil, List.sum_cons, List.sum_nil, Function.comp_apply,
      fieldValue_hex, Nat.add_zero]
  · next h => simp [not_not.1 h]

/-- A rendering reads back as the flag it renders. -/
theorem parseServiceFlag_string (f : ServiceFlag) : parseServiceFlag f.string = f.toNat := by
  by_cases hf : f = 0
  · subst hf; decide
  rw [string_eq_intercalate hf, parseServiceFlag_intercalate _ (serviceFlagFields_isBarField f),
    serviceFlagFields, List.map_append, List.sum_append, sum_names, sum_rest]
  have := Nat.mod_le f.toNat (2 ^ 8)
  omega

/-! ## `String` is faithful -/

/-- `String` writes `0x0` exactly for no flag. For any other flag it joins with `|` the
    names of its named flags, in `orderedSFStrings` order, then the hex of what is left
    when something is, with no field empty and none holding a `|`. No two flags render
    alike. -/
theorem serviceFlag_string_faithful :
    (∀ f : ServiceFlag, f.string = "0x0" ↔ f = 0) ∧
    (∀ f : ServiceFlag, f ≠ 0 →
      f.string = "|".intercalate (serviceFlagFields f) ∧ serviceFlagFields f ≠ [] ∧
        ∀ x ∈ serviceFlagFields f, x ≠ "" ∧ '|' ∉ x.data) ∧
    Function.Injective ServiceFlag.string := by
  have hinj : Function.Injective ServiceFlag.string := fun f g h =>
    UInt64.toNat.inj (by rw [← parseServiceFlag_string f, h, parseServiceFlag_string g])
  refine ⟨fun f => ⟨fun h => hinj (h.trans (by decide)), fun h => by rw [h]; decide⟩,
    fun f hf => ⟨string_eq_intercalate hf, fun hnil => hf ?_, fun x hx => ?_⟩, hinj⟩
  · have := parseServiceFlag_string f
    rw [string_eq_intercalate hf, hnil] at this
    exact UInt64.toNat.inj (this.symm.trans (by decide))
  · obtain ⟨h1, h2⟩ := serviceFlagFields_isBarField f x hx
    exact ⟨fun e => h1 (by rw [e]), h2⟩

end RosettaRavencoin.Wire

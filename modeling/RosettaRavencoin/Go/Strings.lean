/-
  RosettaRavencoin.Go.Strings — the functions of Go's `strings` and `strconv` that the
  modelled code calls, on strings as lists of runes.

  `toLower` lowers rune by rune: `strings.ToLower` is `Map(unicode.ToLower, s)`. The Unicode
  case tables are not embedded; `unicode.ToLower` is a parameter, `UnicodeToLower`, that
  carries what the model uses of it: on ASCII it is `Char.toLower`. `trimLeft` and
  `trimRight` drop the runes of the cutset at one end. `formatUint` writes the digits of
  `strconv.FormatUint`, lower case past nine and with no leading zero.

  Proved:
  - `digitsValue_formatUint`: the digits read back as the number, in every base from 2
    to 16, so `formatUint_inj`.
  - `trimRight_fields`, `trimLeft_intercalate`, `trimLeft_intercalate_bar`: the trims on
    fields joined with `|`, none empty and none holding a `|`.
  - `data_intercalate`: `String.intercalate` is `List.intercalate` on the runes.
-/

import Mathlib.Data.List.Basic
import Mathlib.Data.Nat.Digits

namespace RosettaRavencoin.Go

/-- `unicode.ToLower`: a rune mapping that lowers the ASCII letters and keeps the other
    ASCII runes, as Go's does. -/
structure UnicodeToLower where
  apply : Char → Char
  ascii : ∀ c : Char, c.toNat < 128 → apply c = c.toLower

/-- `strings.ToLower`: `Map(unicode.ToLower, s)`. -/
def toLower (unicodeToLower : UnicodeToLower) (s : String) : String :=
  ⟨s.data.map unicodeToLower.apply⟩

theorem toLower_ascii (unicodeToLower : UnicodeToLower) {s : String}
    (h : ∀ c ∈ s.data, c.toNat < 128) : toLower unicodeToLower s = ⟨s.data.map Char.toLower⟩ :=
  congrArg String.mk (List.map_congr_left fun c hc => unicodeToLower.ascii c (h c hc))

/-- `strings.TrimLeft(s, cutset)`. -/
def trimLeft (s cutset : String) : String := ⟨s.data.dropWhile cutset.data.contains⟩

/-- `strings.TrimRight(s, cutset)`. -/
def trimRight (s cutset : String) : String :=
  ⟨(s.data.reverse.dropWhile cutset.data.contains).reverse⟩

/-- `strconv.FormatUint(i, base)`. -/
def formatUint (i : UInt64) (base : Nat) : String := ⟨Nat.toDigits base i.toNat⟩

/-! ## Reading digits back -/

/-- The value of a digit `Nat.digitChar` writes, below sixteen. -/
def digitValue (c : Char) : Nat := if c.isDigit then c.toNat - 48 else c.toNat - 87

/-- The number a list of digits in `base` spells, most significant first. -/
def digitsValue (base : Nat) (ds : List Char) : Nat :=
  ds.foldl (fun n c => n * base + digitValue c) 0

theorem digitValue_digitChar : ∀ d < 16, digitValue (Nat.digitChar d) = d := by decide

theorem foldl_toDigitsCore {base : Nat} (hb : 2 ≤ base) (hb16 : base ≤ 16) :
    ∀ fuel n ds, n < fuel →
      (Nat.toDigitsCore base fuel n ds).foldl (fun n c => n * base + digitValue c) 0 =
        ds.foldl (fun n c => n * base + digitValue c) n := by
  intro fuel
  induction fuel with
  | zero => intro n ds h; omega
  | succ fuel ih =>
    intro n ds h
    have hd := digitValue_digitChar (n % base) (Nat.lt_of_lt_of_le (Nat.mod_lt n (by omega)) hb16)
    have hn := Nat.div_add_mod' n base
    simp only [Nat.toDigitsCore]
    split
    · next h0 =>
      rw [h0, Nat.zero_mul, Nat.zero_add] at hn
      rw [hn] at hd
      simp only [List.foldl_cons, Nat.zero_mul, Nat.zero_add, hn, hd]
    · next h0 =>
      have hpos : 0 < n := Nat.pos_of_ne_zero fun e => h0 (by simp [e])
      rw [ih _ _ (Nat.lt_of_lt_of_le (Nat.div_lt_self hpos hb) (Nat.le_of_lt_succ h))]
      simp only [List.foldl_cons, hd, hn]

theorem mem_toDigitsCore {base : Nat} (hb : 0 < base) :
    ∀ fuel n ds c, c ∈ Nat.toDigitsCore base fuel n ds → c ∈ ds ∨ ∃ d < base, c = Nat.digitChar d := by
  intro fuel
  induction fuel with
  | zero => intro n ds c h; exact .inl h
  | succ fuel ih =>
    intro n ds c h
    have hd (h : c ∈ Nat.digitChar (n % base) :: ds) : c ∈ ds ∨ ∃ d < base, c = Nat.digitChar d :=
      (List.mem_cons.mp h).symm.imp_right fun e => ⟨_, Nat.mod_lt n hb, e⟩
    simp only [Nat.toDigitsCore] at h
    split at h
    · exact hd h
    · exact (ih _ _ _ h).elim hd .inr

theorem digitsValue_formatUint (i : UInt64) {base : Nat} (hb : 2 ≤ base) (hb16 : base ≤ 16) :
    digitsValue base (formatUint i base).data = i.toNat :=
  foldl_toDigitsCore hb hb16 _ _ _ (Nat.lt_succ_self _)

theorem formatUint_inj {i j : UInt64} {base : Nat} (hb : 2 ≤ base) (hb16 : base ≤ 16)
    (h : formatUint i base = formatUint j base) : i = j :=
  UInt64.toNat.inj <| by rw [← digitsValue_formatUint i hb hb16, h, digitsValue_formatUint j hb hb16]

theorem mem_formatUint {i : UInt64} {base : Nat} (hb : 0 < base) {c : Char}
    (h : c ∈ (formatUint i base).data) : ∃ d < base, c = Nat.digitChar d :=
  (mem_toDigitsCore hb _ _ _ c h).resolve_left (List.not_mem_nil c)

/-! ## Joining and trimming fields -/

theorem intercalate_cons {α : Type} (sep a : List α) (as : List (List α)) :
    sep.intercalate (a :: as) = a ++ (as.map (sep ++ ·)).flatten := by
  induction as generalizing a with
  | nil => simp [List.intercalate]
  | cons b bs ih => simp [List.intercalate, List.intersperse_cons₂] at ih ⊢; simp [ih]

theorem intercalateGo_data (sep acc : String) (as : List String) :
    (String.intercalate.go acc sep as).data = acc.data ++ (as.map (sep.data ++ ·.data)).flatten := by
  induction as generalizing acc with
  | nil => simp [String.intercalate.go]
  | cons b bs ih => simp [String.intercalate.go, ih]

/-- `String.intercalate` is `List.intercalate` on the runes. -/
theorem data_intercalate (sep : String) (xs : List String) :
    (sep.intercalate xs).data = sep.data.intercalate (xs.map String.data) := by
  cases xs with
  | nil => rfl
  | cons a as => simp [String.intercalate, intercalateGo_data, intercalate_cons, Function.comp_def]

theorem contains_bar : "|".data.contains = (· == '|') := by
  funext c
  show List.elem c ['|'] = (c == '|')
  cases h : c == '|' <;> simp [List.elem, h]

theorem trimLeft_bar (s : String) : (trimLeft s "|").data = s.data.dropWhile (· == '|') := by
  rw [trimLeft, contains_bar]

theorem trimRight_bar (s : String) :
    (trimRight s "|").data = (s.data.reverse.dropWhile (· == '|')).reverse := by
  rw [trimRight, contains_bar]

/-- A field `String` joins: not empty, and no `|` in it. -/
def IsBarField (x : String) : Prop := x.data ≠ [] ∧ '|' ∉ x.data

theorem dropWhile_field {x : List Char} (hx : x ≠ []) (hbar : '|' ∉ x) (rest : List Char) :
    (x ++ rest).dropWhile (· == '|') = x ++ rest := by
  obtain ⟨c, x, rfl⟩ := List.exists_cons_of_ne_nil hx
  have : (c == '|') = false := beq_false_of_ne fun h => hbar (h ▸ List.mem_cons_self _ _)
  rw [List.cons_append, List.dropWhile_cons_of_neg (by simp [this])]

theorem reverse_dropWhile_fields : ∀ N : List (List Char), (∀ n ∈ N, n ≠ [] ∧ '|' ∉ n) →
    ((N.map (· ++ ['|'])).flatten.reverse.dropWhile (· == '|')).reverse = ['|'].intercalate N
  | [], _ => rfl
  | [n], h => by
    have hn := h n (List.mem_singleton_self n)
    have hr := dropWhile_field (x := n.reverse) (by simpa using hn.1) (by simpa using hn.2) []
    rw [List.append_nil] at hr
    rw [List.map_singleton, List.flatten_singleton, List.reverse_append, List.reverse_singleton,
      List.singleton_append, List.dropWhile_cons_of_pos (by decide), hr, List.reverse_reverse]
    simp [intercalate_cons]
  | n :: m :: rest, h => by
    have ih := reverse_dropWhile_fields (m :: rest) fun x hx => h x (List.mem_cons_of_mem _ hx)
    have hm := (h m (by simp)).1
    have hne : (((m :: rest).map (· ++ ['|'])).flatten.reverse.dropWhile (· == '|')).isEmpty =
        false := List.isEmpty_eq_false.2 fun e => by
      rw [e, List.reverse_nil, intercalate_cons] at ih
      exact hm (List.append_eq_nil.1 ih.symm).1
    rw [List.map_cons, List.flatten_cons, List.reverse_append, List.dropWhile_append, hne,
      if_neg Bool.false_ne_true, List.reverse_append, ih]
    simp [intercalate_cons]

theorem trimRight_fields (N : List String) (hN : ∀ n ∈ N, IsBarField n) :
    trimRight ⟨(N.map (·.data ++ ['|'])).flatten⟩ "|" = "|".intercalate N := by
  have := reverse_dropWhile_fields (N.map String.data) (by simpa [IsBarField] using hN)
  rw [String.ext_iff, trimRight_bar, data_intercalate]
  simpa [Function.comp_def] using this

theorem trimLeft_intercalate (N : List String) (hN : ∀ n ∈ N, IsBarField n) :
    trimLeft ("|".intercalate N) "|" = "|".intercalate N := by
  cases N with
  | nil => rfl
  | cons n N =>
    have hn := hN n (List.mem_cons_self _ _)
    rw [String.ext_iff, trimLeft_bar, data_intercalate, List.map_cons, intercalate_cons,
      dropWhile_field hn.1 hn.2]

theorem trimLeft_intercalate_bar (N : List String) (hN : ∀ n ∈ N, IsBarField n) {h : String}
    (hh : IsBarField h) : trimLeft ("|".intercalate N ++ "|" ++ h) "|" = "|".intercalate (N ++ [h]) := by
  rw [String.ext_iff, trimLeft_bar]
  cases N with
  | nil =>
    have hr := dropWhile_field hh.1 hh.2 []
    rw [List.append_nil] at hr
    simpa [data_intercalate, List.intercalate] using hr
  | cons n N =>
    have hn := hN n (List.mem_cons_self _ _)
    simp only [String.data_append, data_intercalate, List.map_cons, List.map_append,
      intercalate_cons, List.append_assoc]
    rw [dropWhile_field hn.1 hn.2]
    simp [intercalate_cons]

/-! ## Tables with a default -/

/-- The `String` of a network type: its name in `names`, or
    `fmt.Sprintf("Unknown <kind> (%d)", uint32(n))`. -/
def netString (names : List (UInt32 × String)) (kind : String) (n : UInt32) : String :=
  match names.lookup n with
  | some s => s
  | none => "Unknown " ++ kind ++ " (" ++ formatUint n.toUInt64 10 ++ ")"

theorem mem_of_lookup {names : List (UInt32 × String)} {n : UInt32} {s : String}
    (h : names.lookup n = some s) : (n, s) ∈ names := by
  obtain ⟨l₁, l₂, rfl, -⟩ := List.lookup_eq_some_iff.1 h
  exact List.mem_append_right _ (List.mem_cons_self _ _)

/-- With distinct names, none starting with the `U` of `Unknown`, no two values render
    alike. -/
theorem netString_inj {names : List (UInt32 × String)} {kind : String}
    (hnames : (names.map Prod.snd).Nodup) (hunknown : ∀ p ∈ names, p.2.data.head? ≠ some 'U')
    {n m : UInt32} (h : netString names kind n = netString names kind m) : n = m := by
  unfold netString at h
  cases hn : names.lookup n <;> cases hm : names.lookup m <;> simp only [hn, hm] at h
  · have hd := congrArg String.data h
    simp only [String.data_append, List.append_assoc, List.append_cancel_left_eq,
      List.append_cancel_right_eq] at hd
    exact UInt32.toNat.inj (congrArg UInt64.toNat (formatUint_inj (by decide) (by decide) (String.ext hd)))
  · exact absurd (by rw [← h]; rfl) (hunknown _ (mem_of_lookup hm))
  · exact absurd (by rw [h]; rfl) (hunknown _ (mem_of_lookup hn))
  · subst h
    exact congrArg Prod.fst (List.inj_on_of_nodup_map hnames (mem_of_lookup hn) (mem_of_lookup hm) rfl)

end RosettaRavencoin.Go

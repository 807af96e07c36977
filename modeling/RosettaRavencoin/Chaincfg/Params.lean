/-
  RosettaRavencoin.Chaincfg.Params — the network registry of `chaincfg/params.go`.

  The package keeps five maps: the registered networks, the pay-to-pubkey-hash and
  pay-to-script-hash address IDs, the bech32 segwit prefixes, and each HD private key ID
  with its public key ID. `register` adds a network, `registerHDKeyID` one pair of HD key
  IDs, and the lookups read the maps. `init` registers `MainNetParams` and
  `TestNet7Params` through `mustRegister`, which panics on an error.

  A Go `map[K]struct{}` is modelled by its membership test `K → Bool`, a `map[K]V` by its
  lookup `K → Option V`, and a write by `Function.update`. A call returns the error it
  returns in Go (`none` for nil) and the registry it leaves.

  Memory. `Register` takes a `*Params` and hands `params.HDPublicKeyID[:]`, a slice into
  the caller's variable, to `RegisterHDKeyID`, which keeps the slice it is given; and
  `HDPrivateKeyToPublicKeyID` returns that slice. So the HD key map holds references, not
  bytes. `Mem` is the memory they point into (the `Params` variables, by address, and the
  caller's byte buffers), a `Slice` is a reference, and the bytes a slice holds are read
  from the memory when they are used (`Slice.read`). A private key ID, and the ID looked
  up, are copied at the call, so they are passed by their bytes.

  `RavencoinNet.string` names the two default networks and writes any other as
  `Unknown RavencoinNet (n)`; no two nets render alike (`ravencoinNet_string_injective`).

  Proved:
  - `register_new`, `register_duplicate`, `register_err`: a new network is written to all
    five maps, and `register` fails only on a duplicate, changing nothing.
  - `registerHDKeyID_err`: `registerHDKeyID` fails exactly on a slice that is not four
    bytes long, and then changes nothing.
-/

import Mathlib.Data.Vector.Basic
import RosettaRavencoin.Go.Strings

namespace RosettaRavencoin.Chaincfg

open Go

/-- `RavencoinNet`: the magic bytes that identify a network. -/
abbrev RavencoinNet := UInt32

def mainNet : RavencoinNet := 0x5241564e

def testNet7 : RavencoinNet := 0x0709110b

def bnStrings : List (RavencoinNet × String) := [(mainNet, "MainNet"), (testNet7, "TestNet7")]

/-- `RavencoinNet.String`. -/
def RavencoinNet.string (n : RavencoinNet) : String := netString bnStrings "RavencoinNet" n

theorem ravencoinNet_string_injective : Function.Injective RavencoinNet.string :=
  fun _ _ h => netString_inj (by decide) (by decide) h

example : RavencoinNet.string 7 = "Unknown RavencoinNet (7)" := by decide

/-- The fields of `Params` that the registry reads. -/
structure Params where
  net : RavencoinNet
  bech32HRPSegwit : String
  pubKeyHashAddrID : UInt8
  scriptHashAddrID : UInt8
  hdPrivateKeyID : Mathlib.Vector UInt8 4
  hdPublicKeyID : Mathlib.Vector UInt8 4

def mainNetParams : Params where
  net := mainNet
  bech32HRPSegwit := "bc"
  pubKeyHashAddrID := 0x00
  scriptHashAddrID := 0x05
  hdPrivateKeyID := ⟨[0x04, 0x88, 0xad, 0xe4], rfl⟩
  hdPublicKeyID := ⟨[0x04, 0x88, 0xb2, 0x1e], rfl⟩

def testNet7Params : Params where
  net := testNet7
  bech32HRPSegwit := "tb"
  pubKeyHashAddrID := 0x6f
  scriptHashAddrID := 0xc4
  hdPrivateKeyID := ⟨[0x04, 0x35, 0x83, 0x94], rfl⟩
  hdPublicKeyID := ⟨[0x04, 0x35, 0x87, 0xcf], rfl⟩

/-- The zero value of `Params`, which a variable holds before it is assigned. -/
def zeroParams : Params := ⟨0, "", 0, 0, ⟨[0, 0, 0, 0], rfl⟩, ⟨[0, 0, 0, 0], rfl⟩⟩

inductive Error where
  | errDuplicateNet
  | errUnknownHDKeyID
  | errInvalidHDKeyID
  deriving DecidableEq, Repr

/-- `err.Error()`. -/
def Error.error : Error → String
  | .errDuplicateNet => "duplicate Ravencoin network"
  | .errUnknownHDKeyID => "unknown hd private extended key bytes"
  | .errInvalidHDKeyID => "invalid hd extended key version bytes"

/-! ## Memory -/

/-- The memory the registry's slices point into: the `Params` variables, by address, and
    the bytes of the caller's buffers. -/
structure Mem where
  params : Nat → Params
  bytes : Nat → UInt8

/-- `*p = value`, for the `Params` variable at `p`. -/
def Mem.setParams (m : Mem) (p : Nat) (value : Params) : Mem :=
  { m with params := Function.update m.params p value }

/-- A byte slice, by the array it points into: `p.HDPublicKeyID[:]` or `p.HDPrivateKeyID[:]`
    of the `Params` variable at `p`, or `len` bytes of a buffer from `addr`. -/
inductive Slice where
  | hdPublicKeyID (params : Nat)
  | hdPrivateKeyID (params : Nat)
  | bytes (addr len : Nat)
  deriving DecidableEq

/-- `len(s)`. -/
def Slice.len : Slice → Nat
  | .hdPublicKeyID _ => 4
  | .hdPrivateKeyID _ => 4
  | .bytes _ len => len

/-- The bytes `s` holds in the memory `m`. -/
def Slice.read (m : Mem) : Slice → List UInt8
  | .hdPublicKeyID p => (m.params p).hdPublicKeyID.toList
  | .hdPrivateKeyID p => (m.params p).hdPrivateKeyID.toList
  | .bytes addr len => (List.range len).map fun i => m.bytes (addr + i)

/-! ## The registry -/

structure Registry where
  registeredNets : RavencoinNet → Bool
  pubKeyHashAddrIDs : UInt8 → Bool
  scriptHashAddrIDs : UInt8 → Bool
  bech32SegwitPrefixes : String → Bool
  hdPrivToPubKeyIDs : Mathlib.Vector UInt8 4 → Option Slice

/-- The maps as `make` leaves them. -/
def Registry.empty : Registry :=
  ⟨fun _ => false, fun _ => false, fun _ => false, fun _ => false, fun _ => none⟩

/-- `RegisterHDKeyID`: the private key ID is copied into the map's key, and the public key
    ID slice is stored as it is. -/
def registerHDKeyID (hdPublicKeyID : Slice) (hdPrivateKeyID : List UInt8) (r : Registry) :
    Option Error × Registry :=
  if h : hdPublicKeyID.len ≠ 4 ∨ hdPrivateKeyID.length ≠ 4 then (some .errInvalidHDKeyID, r)
  else
    let keyID : Mathlib.Vector UInt8 4 := ⟨hdPrivateKeyID, by omega⟩
    (none, { r with
      hdPrivToPubKeyIDs := Function.update r.hdPrivToPubKeyIDs keyID (some hdPublicKeyID) })

/-- `Register(params)`, `params` the address of a `Params` variable: its fields are read at
    the call, and `params.HDPublicKeyID[:]` is handed on as a slice into the variable. An
    error of `registerHDKeyID` is returned after the first three maps are written and
    before the prefix is. -/
def register (params : Nat) (m : Mem) (r : Registry) : Option Error × Registry :=
  let p := m.params params
  if r.registeredNets p.net then (some .errDuplicateNet, r) else
  let r := { r with
    registeredNets := Function.update r.registeredNets p.net true
    pubKeyHashAddrIDs := Function.update r.pubKeyHashAddrIDs p.pubKeyHashAddrID true
    scriptHashAddrIDs := Function.update r.scriptHashAddrIDs p.scriptHashAddrID true }
  match registerHDKeyID (.hdPublicKeyID params) p.hdPrivateKeyID.toList r with
  | (some err, r) => (some err, r)
  | (none, r) =>
    (none, { r with
      bech32SegwitPrefixes := Function.update r.bech32SegwitPrefixes (p.bech32HRPSegwit ++ "1") true })

/-- `mustRegister`: a panic is the `error` carrying its message. -/
def mustRegister (params : Nat) (m : Mem) (r : Registry) : Except String Registry :=
  match register params m r with
  | (some err, _) => .error ("failed to register network: " ++ err.error)
  | (none, r) => .ok r

/-- The addresses of the package variables `MainNetParams` and `TestNet7Params`. -/
def mainNetParamsAddr : Nat := 0

def testNet7ParamsAddr : Nat := 1

def init (m : Mem) : Except String Registry := do
  let r ← mustRegister mainNetParamsAddr m Registry.empty
  mustRegister testNet7ParamsAddr m r

def isPubKeyHashAddrID (id : UInt8) (r : Registry) : Bool := r.pubKeyHashAddrIDs id

def isScriptHashAddrID (id : UInt8) (r : Registry) : Bool := r.scriptHashAddrIDs id

def isBech32SegwitPrefix (unicodeToLower : UnicodeToLower) (pfx : String) (r : Registry) : Bool :=
  r.bech32SegwitPrefixes (toLower unicodeToLower pfx)

/-- `HDPrivateKeyToPublicKeyID`: the slice the map holds, not a copy of it. -/
def hdPrivateKeyToPublicKeyID (id : List UInt8) (r : Registry) : Except Error Slice :=
  if h : id.length ≠ 4 then .error .errUnknownHDKeyID
  else match r.hdPrivToPubKeyIDs ⟨id, by omega⟩ with
    | none => .error .errUnknownHDKeyID
    | some pubBytes => .ok pubBytes

/-! ## What each call does -/

section
variable {hdPublicKeyID : Slice} {hdPrivateKeyID : List UInt8} {params : Nat} {m : Mem}
  {r : Registry}

theorem registerHDKeyID_invalid (h : hdPublicKeyID.len ≠ 4 ∨ hdPrivateKeyID.length ≠ 4) :
    registerHDKeyID hdPublicKeyID hdPrivateKeyID r = (some .errInvalidHDKeyID, r) := by
  simp [registerHDKeyID, h]

theorem registerHDKeyID_valid (hpub : hdPublicKeyID.len = 4) (hpriv : hdPrivateKeyID.length = 4) :
    registerHDKeyID hdPublicKeyID hdPrivateKeyID r = (none, { r with
      hdPrivToPubKeyIDs :=
        Function.update r.hdPrivToPubKeyIDs ⟨hdPrivateKeyID, hpriv⟩ (some hdPublicKeyID) }) := by
  simp [registerHDKeyID, hpub, hpriv]

theorem register_duplicate (h : r.registeredNets (m.params params).net = true) :
    register params m r = (some .errDuplicateNet, r) := by
  simp [register, h]

/-- A new network is written to all five maps: the key IDs of a `Params` have four bytes,
    so the error branch of `registerHDKeyID` is never taken. -/
theorem register_new (h : r.registeredNets (m.params params).net = false) :
    register params m r = (none,
      { registeredNets := Function.update r.registeredNets (m.params params).net true
        pubKeyHashAddrIDs :=
          Function.update r.pubKeyHashAddrIDs (m.params params).pubKeyHashAddrID true
        scriptHashAddrIDs :=
          Function.update r.scriptHashAddrIDs (m.params params).scriptHashAddrID true
        bech32SegwitPrefixes := Function.update r.bech32SegwitPrefixes
          ((m.params params).bech32HRPSegwit ++ "1") true
        hdPrivToPubKeyIDs := Function.update r.hdPrivToPubKeyIDs (m.params params).hdPrivateKeyID
          (some (.hdPublicKeyID params)) }) := by
  simp [register, h, registerHDKeyID_valid (rfl : (Slice.hdPublicKeyID params).len = 4)
    (m.params params).hdPrivateKeyID.toList_length, Mathlib.Vector.mk_toList]

/-- `registerHDKeyID` fails exactly on a slice that is not four bytes long, and then leaves
    the registry as it was. -/
theorem registerHDKeyID_err :
    ((registerHDKeyID hdPublicKeyID hdPrivateKeyID r).1 = some .errInvalidHDKeyID ↔
        hdPublicKeyID.len ≠ 4 ∨ hdPrivateKeyID.length ≠ 4) ∧
      ((registerHDKeyID hdPublicKeyID hdPrivateKeyID r).1 ≠ none →
        (registerHDKeyID hdPublicKeyID hdPrivateKeyID r).2 = r) := by
  by_cases hl : hdPublicKeyID.len ≠ 4 ∨ hdPrivateKeyID.length ≠ 4
  · simp [registerHDKeyID_invalid hl, hl]
  · have hpub : hdPublicKeyID.len = 4 := by omega
    have hpriv : hdPrivateKeyID.length = 4 := by omega
    simp [registerHDKeyID_valid (r := r) hpub hpriv, hl]

/-- `register` fails only with `errDuplicateNet`, and then leaves the registry as it was. -/
theorem register_err {e : Error} (h : (register params m r).1 = some e) :
    e = .errDuplicateNet ∧ (register params m r).2 = r := by
  cases hr : r.registeredNets (m.params params).net
  · rw [register_new hr] at h; cases h
  · rw [register_duplicate hr] at h ⊢; cases h; exact ⟨rfl, rfl⟩

/-- The error `registerHDKeyID` returns depends on the lengths of its arguments only. -/
theorem registerHDKeyID_fst :
    (registerHDKeyID hdPublicKeyID hdPrivateKeyID r).1 =
      if hdPublicKeyID.len = 4 ∧ hdPrivateKeyID.length = 4 then none
      else some .errInvalidHDKeyID := by
  by_cases hl : hdPublicKeyID.len = 4 ∧ hdPrivateKeyID.length = 4
  · rw [registerHDKeyID_valid hl.1 hl.2, if_pos hl]
  · rw [registerHDKeyID_invalid (by omega), if_neg hl]

/-- The error `register` returns depends on whether the `Net` it reads is registered only. -/
theorem register_fst :
    (register params m r).1 =
      if r.registeredNets (m.params params).net then some .errDuplicateNet else none := by
  cases h : r.registeredNets (m.params params).net
  · rw [register_new h]; rfl
  · rw [register_duplicate h]; rfl

@[simp] theorem registerHDKeyID_registeredNets :
    (registerHDKeyID hdPublicKeyID hdPrivateKeyID r).2.registeredNets = r.registeredNets := by
  unfold registerHDKeyID; split <;> rfl

@[simp] theorem registerHDKeyID_pubKeyHashAddrIDs :
    (registerHDKeyID hdPublicKeyID hdPrivateKeyID r).2.pubKeyHashAddrIDs = r.pubKeyHashAddrIDs := by
  unfold registerHDKeyID; split <;> rfl

@[simp] theorem registerHDKeyID_scriptHashAddrIDs :
    (registerHDKeyID hdPublicKeyID hdPrivateKeyID r).2.scriptHashAddrIDs = r.scriptHashAddrIDs := by
  unfold registerHDKeyID; split <;> rfl

@[simp] theorem registerHDKeyID_bech32SegwitPrefixes :
    (registerHDKeyID hdPublicKeyID hdPrivateKeyID r).2.bech32SegwitPrefixes =
      r.bech32SegwitPrefixes := by
  unfold registerHDKeyID; split <;> rfl

/-- The networks after `register`: the new one is added, and a duplicate is already there. -/
theorem register_registeredNets (n : RavencoinNet) :
    (register params m r).2.registeredNets n =
      (r.registeredNets n || n == (m.params params).net) := by
  cases h : r.registeredNets (m.params params).net
  · rw [register_new h]; rcases eq_or_ne n (m.params params).net with rfl | hn <;> simp [*]
  · rw [register_duplicate h]; rcases eq_or_ne n (m.params params).net with rfl | hn <;> simp [*]

end

end RosettaRavencoin.Chaincfg

/-
  RosettaRavencoin.Chaincfg.Registry — runs of `register` and `registerHDKeyID`, with the
  caller's writes to memory in between, from the registry `init` leaves; against what the
  registry stands for.

  A program makes calls and writes its memory between them (`Step`); a `World` is the
  memory and the registry. `Registered` is the abstract content: the networks registered,
  as their `Params` were read at the call, and the HD key ID pairs registered, oldest
  first, each a private key ID with the public key ID slice it was given. `Models r a`
  says every map of `r` answers as `a` does: a network, address ID or segwit prefix is in
  its map iff a registered network has it, and an HD private key ID maps to the slice of
  its last registration (`lastPub`). `Registered.err` is the error a call returns on the
  abstract content.

  A write leaves the registry as it is, but a slice the registry holds reads what the
  memory holds now. `HDPrivateKeyToPublicKeyID` answers with the bytes its last
  registration was given only while no write changes them (`NoLaterWrite`). Go 1.15, which
  the Dockerfile pins, has one variable for a `range` loop: after
  `for _, p := range ps { Register(&p) }` every network of the loop answers with the
  public key ID of the last one (`range_loop_aliases`).

  Proved:
  - `exec_hdPrivToPubKeyIDs`: after any call, the key map is the call's new pair, if any,
    over the map before.
  - `exec_models`, `step_models`, `run_models`: one call returns `Registered.err` and keeps
    `Models`, with what it registered appended; a write keeps it; so does every run. So
    `register` never returns `errInvalidHDKeyID`, and a duplicate leaves the registry as
    it was.
  - `step_keysRead`, `run_keysRead`: the bytes the key map's slices hold are those of the
    last registrations, as long as no write changes them.
  - `models_init`: `initRegistry`, what `init` leaves, models the two default networks.
  - `register_all_or_nothing`, `hdKeyID_last_writer_wins`: the two laws over every run
    from `initWorld`.
  - `isBech32SegwitPrefix_iff`: a query is known iff its lower-cased form is a registered
    prefix as written, so a network registered with `RC` is not known by its own prefix
    `RC1` (`upper_hrp_prefix_unrecognised`).
-/

import RosettaRavencoin.Chaincfg.Params

namespace RosettaRavencoin.Chaincfg

open Go

/-- A call that writes the registry. -/
inductive Call where
  | register (params : Nat)
  | registerHDKeyID (hdPublicKeyID : Slice) (hdPrivateKeyID : List UInt8)

def Call.exec (m : Mem) : Call → Registry → Option Error × Registry
  | .register params => Chaincfg.register params m
  | .registerHDKeyID pub priv => Chaincfg.registerHDKeyID pub priv

/-- What a program does: a call, or writes to its memory that leave it `m`. -/
inductive Step where
  | call (c : Call)
  | write (m : Mem)

/-- The memory and the registry. -/
structure World where
  mem : Mem
  reg : Registry

def Step.exec : Step → World → Option Error × World
  | .call c, w => ((c.exec w.mem w.reg).1, ⟨w.mem, (c.exec w.mem w.reg).2⟩)
  | .write m, w => (none, ⟨m, w.reg⟩)

/-- The world after `steps`, in order. -/
def run (w : World) (steps : List Step) : World :=
  steps.foldl (fun w s => (s.exec w).2) w

@[simp] theorem run_cons (w : World) (s : Step) (ss : List Step) :
    run w (s :: ss) = run (s.exec w).2 ss := rfl

/-- The network a call that returned `err` registered, as it read it. -/
def Call.newNets (m : Mem) : Call → Option Error → List Params
  | .register params, none => [m.params params]
  | _, _ => []

/-- The HD key ID pair, (private, public slice), a call that returned `err` registered. -/
def Call.newKeys (m : Mem) : Call → Option Error → List (List UInt8 × Slice)
  | .register params, none => [((m.params params).hdPrivateKeyID.toList, .hdPublicKeyID params)]
  | .registerHDKeyID pub priv, _ => if pub.len = 4 ∧ priv.length = 4 then [(priv, pub)] else []
  | .register _, some _ => []

def Step.newNets (w : World) : Step → Option Error → List Params
  | .call c, err => c.newNets w.mem err
  | .write _, _ => []

def Step.newKeys (w : World) : Step → Option Error → List (List UInt8 × Slice)
  | .call c, err => c.newKeys w.mem err
  | .write _, _ => []

/-- The networks of the `register` calls among `steps` that returned nil. -/
def registeredBy (w : World) : List Step → List Params
  | [] => []
  | s :: ss => s.newNets w (s.exec w).1 ++ registeredBy (s.exec w).2 ss

/-- The key pairs of the `register` calls among `steps` that returned nil and of the
    `registerHDKeyID` calls whose two arguments have four bytes. -/
def hdRegistrations (w : World) : List Step → List (List UInt8 × Slice)
  | [] => []
  | s :: ss => s.newKeys w (s.exec w).1 ++ hdRegistrations (s.exec w).2 ss

/-- The same pairs, each public key ID as the bytes its slice held at the call. -/
def hdRegistrationValues (w : World) : List Step → List (List UInt8 × List UInt8)
  | [] => []
  | s :: ss => (s.newKeys w (s.exec w).1).map (fun k => (k.1, k.2.read w.mem)) ++
      hdRegistrationValues (s.exec w).2 ss

/-! ## What the registry stands for -/

structure Registered where
  nets : List Params
  /-- (private, public), oldest first. -/
  keys : List (List UInt8 × Slice)

/-- The public key ID of the last pair registered for the private key ID `id`. -/
def lastPub {α : Type} (keys : List (List UInt8 × α)) (id : List UInt8) : Option α :=
  (keys.reverse.find? (·.1 == id)).map (·.2)

/-- `HDPrivateKeyToPublicKeyID` as the key pairs registered determine it: the public key ID
    of the last registration of a four-byte `id`, and `errUnknownHDKeyID` otherwise. -/
def lastRegistered {α : Type} (keys : List (List UInt8 × α)) (id : List UInt8) :
    Except Error α :=
  if id.length = 4 then
    match lastPub keys id with
    | none => .error .errUnknownHDKeyID
    | some pub => .ok pub
  else .error .errUnknownHDKeyID

def Registered.err (m : Mem) (a : Registered) : Call → Option Error
  | .register params =>
    if (m.params params).net ∈ a.nets.map (·.net) then some .errDuplicateNet else none
  | .registerHDKeyID pub priv =>
    if pub.len = 4 ∧ priv.length = 4 then none else some .errInvalidHDKeyID

def Registered.record (m : Mem) (a : Registered) (c : Call) (err : Option Error) : Registered :=
  ⟨a.nets ++ c.newNets m err, a.keys ++ c.newKeys m err⟩

structure Models (r : Registry) (a : Registered) : Prop where
  nets : ∀ n, r.registeredNets n = true ↔ n ∈ a.nets.map (·.net)
  pubKeyHash : ∀ b, r.pubKeyHashAddrIDs b = true ↔ b ∈ a.nets.map (·.pubKeyHashAddrID)
  scriptHash : ∀ b, r.scriptHashAddrIDs b = true ↔ b ∈ a.nets.map (·.scriptHashAddrID)
  bech32 : ∀ s, r.bech32SegwitPrefixes s = true ↔ s ∈ a.nets.map (·.bech32HRPSegwit ++ "1")
  keys : ∀ k, r.hdPrivToPubKeyIDs k = lastPub a.keys k.toList

@[simp] theorem update_true_iff {α : Type} [DecidableEq α] (m : α → Bool) (k x : α) :
    Function.update m k true x = true ↔ x = k ∨ m x = true := by
  by_cases h : x = k <;> simp [Function.update_apply, h]

/-- Later pairs come first. -/
theorem lastPub_append {α : Type} (xs ys : List (List UInt8 × α)) (id : List UInt8) :
    lastPub (xs ++ ys) id = (lastPub ys id).or (lastPub xs id) := by
  simp only [lastPub, List.reverse_append, List.find?_append, Option.map_or']

theorem lastPub_map {α β : Type} (f : α → β) (keys : List (List UInt8 × α)) (id : List UInt8) :
    (lastPub keys id).map f = lastPub (keys.map fun k => (k.1, f k.2)) id := by
  simp only [lastPub, ← List.map_reverse, List.find?_map, Option.map_map]; rfl

theorem update_some_eq {α : Type} (f : Mathlib.Vector UInt8 4 → Option α)
    (k x : Mathlib.Vector UInt8 4) (v : α) :
    Function.update f k (some v) x = (lastPub [(k.toList, v)] x.toList).or (f x) := by
  by_cases h : x = k
  · subst h; simp [lastPub]
  · simp [lastPub, Function.update_noteq h, Mathlib.Vector.toList_injective.eq_iff, Ne.symm h]

/-- After any call, the key map is the pair the call registered, if any, over the map
    before. -/
theorem exec_hdPrivToPubKeyIDs (c : Call) (m : Mem) (r : Registry) (k : Mathlib.Vector UInt8 4) :
    (c.exec m r).2.hdPrivToPubKeyIDs k =
      (lastPub (c.newKeys m (c.exec m r).1) k.toList).or (r.hdPrivToPubKeyIDs k) := by
  cases c with
  | register params =>
    cases h : r.registeredNets (m.params params).net
    · simp only [Call.exec, register_new h, Call.newKeys]
      exact update_some_eq _ _ _ _
    · simp [Call.exec, register_duplicate h, Call.newKeys, lastPub]
  | registerHDKeyID pub priv =>
    by_cases hl : pub.len = 4 ∧ priv.length = 4
    · simp only [Call.exec, registerHDKeyID_valid hl.1 hl.2, Call.newKeys, if_pos hl]
      exact update_some_eq _ ⟨priv, hl.2⟩ _ _
    · simp [Call.exec, registerHDKeyID_invalid (by omega : pub.len ≠ 4 ∨ priv.length ≠ 4),
        Call.newKeys, hl, lastPub]

/-! ## One step -/

section
variable {r : Registry} {a : Registered}

/-- One call answers as the abstract content does, and the registry it leaves models
    what it registered appended. -/
theorem exec_models (h : Models r a) (m : Mem) (c : Call) :
    (c.exec m r).1 = a.err m c ∧ Models (c.exec m r).2 (a.record m c (a.err m c)) := by
  have he : (c.exec m r).1 = a.err m c := by
    cases c with
    | register params => exact register_fst.trans (if_congr (h.nets _) rfl rfl)
    | registerHDKeyID pub priv => exact registerHDKeyID_fst
  have hk : ∀ k, (c.exec m r).2.hdPrivToPubKeyIDs k =
      lastPub (a.record m c (a.err m c)).keys k.toList := fun k => by
    rw [exec_hdPrivToPubKeyIDs, he, Registered.record, lastPub_append, h.keys]
  refine ⟨he, ?_⟩
  cases c with
  | register params =>
    by_cases hn : (m.params params).net ∈ a.nets.map (·.net)
    · have hr := register_duplicate ((h.nets _).2 hn)
      refine ⟨fun n => ?_, fun b => ?_, fun b => ?_, fun s => ?_, hk⟩ <;>
        simp [Call.exec, hr, Registered.record, Registered.err, hn, Call.newNets, h.nets,
          h.pubKeyHash, h.scriptHash, h.bech32]
    · have hr := register_new (Bool.eq_false_iff.mpr fun h' => hn ((h.nets _).1 h'))
      refine ⟨fun n => ?_, fun b => ?_, fun b => ?_, fun s => ?_, hk⟩ <;>
        simp [Call.exec, hr, Registered.record, Registered.err, hn, Call.newNets, h.nets,
          h.pubKeyHash, h.scriptHash, h.bech32, or_comm]
  | registerHDKeyID pub priv =>
    refine ⟨fun n => ?_, fun b => ?_, fun b => ?_, fun s => ?_, hk⟩ <;>
      simp [Call.exec, Registered.record, Call.newNets, h.nets, h.pubKeyHash, h.scriptHash,
        h.bech32]

end

theorem step_models {w : World} {a : Registered} (h : Models w.reg a) (s : Step) :
    Models (s.exec w).2.reg
      ⟨a.nets ++ s.newNets w (s.exec w).1, a.keys ++ s.newKeys w (s.exec w).1⟩ := by
  cases s with
  | call c =>
    obtain ⟨he, hm⟩ := exec_models h w.mem c
    simpa [Step.exec, Step.newNets, Step.newKeys, he] using hm
  | write m => simpa [Step.exec, Step.newNets, Step.newKeys] using h

/-! ## Runs -/

theorem run_models {w : World} {a : Registered} (h : Models w.reg a) (steps : List Step) :
    Models (run w steps).reg ⟨a.nets ++ registeredBy w steps, a.keys ++ hdRegistrations w steps⟩ := by
  induction steps generalizing w a with
  | nil => simpa [run, registeredBy, hdRegistrations] using h
  | cons s ss ih => simpa [registeredBy, hdRegistrations] using ih (step_models h s)

/-- The memory as the package's variable initialisers leave it: `MainNetParams` and
    `TestNet7Params` at their addresses, every other variable its zero value. -/
def initMem : Mem :=
  ⟨fun p => if p = mainNetParamsAddr then mainNetParams
    else if p = testNet7ParamsAddr then testNet7Params else zeroParams, fun _ => 0⟩

def initRegistry : Registry :=
  (run ⟨initMem, Registry.empty⟩
    [.call (.register mainNetParamsAddr), .call (.register testNet7ParamsAddr)]).reg

example : init initMem = .ok initRegistry := rfl

def initWorld : World := ⟨initMem, initRegistry⟩

def initRegistered : Registered :=
  ⟨[mainNetParams, testNet7Params],
    [(mainNetParams.hdPrivateKeyID.toList, .hdPublicKeyID mainNetParamsAddr),
     (testNet7Params.hdPrivateKeyID.toList, .hdPublicKeyID testNet7ParamsAddr)]⟩

theorem models_init : Models initRegistry initRegistered := by
  have h : Models Registry.empty ⟨[], []⟩ := by constructor <;> simp [Registry.empty, lastPub]
  exact run_models (w := ⟨initMem, Registry.empty⟩) h
    [.call (.register mainNetParamsAddr), .call (.register testNet7ParamsAddr)]

/-! ## The bytes the key map's slices hold -/

/-- The key map's slices hold, now, the bytes of the last registration in `vals`. -/
def KeysRead (w : World) (vals : List (List UInt8 × List UInt8)) : Prop :=
  ∀ k, (w.reg.hdPrivToPubKeyIDs k).map (Slice.read w.mem) = lastPub vals k.toList

/-- A step that is a call, or a write that changes no bytes a slice of the key map holds. -/
def Step.keepsKeys (w : World) : Step → Prop
  | .call _ => True
  | .write m => ∀ k,
    (w.reg.hdPrivToPubKeyIDs k).map (Slice.read m) = (w.reg.hdPrivToPubKeyIDs k).map (Slice.read w.mem)

/-- No write of the run changes the bytes of a public key ID the registry holds then. -/
def NoLaterWrite (w : World) : List Step → Prop
  | [] => True
  | s :: ss => s.keepsKeys w ∧ NoLaterWrite (s.exec w).2 ss

theorem step_keysRead {w : World} {vals : List (List UInt8 × List UInt8)} (h : KeysRead w vals)
    (s : Step) (hs : s.keepsKeys w) :
    KeysRead (s.exec w).2
      (vals ++ (s.newKeys w (s.exec w).1).map fun k => (k.1, k.2.read w.mem)) := by
  intro k
  cases s with
  | call c =>
    show ((c.exec w.mem w.reg).2.hdPrivToPubKeyIDs k).map (Slice.read w.mem) = _
    rw [exec_hdPrivToPubKeyIDs, Option.map_or', lastPub_map, h k, ← lastPub_append]
    rfl
  | write m => simpa [Step.exec, Step.newKeys] using (hs k).trans (h k)

theorem run_keysRead {w : World} {vals : List (List UInt8 × List UInt8)} (h : KeysRead w vals)
    (steps : List Step) (hw : NoLaterWrite w steps) :
    KeysRead (run w steps) (vals ++ hdRegistrationValues w steps) := by
  induction steps generalizing w vals with
  | nil => simpa [run, hdRegistrationValues] using h
  | cons s ss ih =>
    simpa [hdRegistrationValues] using ih (step_keysRead h s hw.1) hw.2

/-- The default networks' key pairs, the public key IDs as `init` found them. -/
def initValues : List (List UInt8 × List UInt8) :=
  initRegistered.keys.map fun k => (k.1, k.2.read initMem)

theorem keysRead_init : KeysRead initWorld initValues := fun k => by
  rw [initWorld, models_init.keys, lastPub_map]; rfl

/-! ## The lookups -/

/-- The lookup answers as `lastRegistered` does over any pairs the key map agrees with,
    through `f`. -/
theorem hdPrivateKeyToPublicKeyID_map {β : Type} (f : Slice → β) {r : Registry}
    {keys : List (List UInt8 × β)} (h : ∀ k, (r.hdPrivToPubKeyIDs k).map f = lastPub keys k.toList)
    (id : List UInt8) : (hdPrivateKeyToPublicKeyID id r).map f = lastRegistered keys id := by
  unfold hdPrivateKeyToPublicKeyID lastRegistered
  by_cases hl : id.length = 4
  · have hk := h ⟨id, hl⟩
    rw [Mathlib.Vector.toList_mk] at hk
    rw [dif_neg (not_not.2 hl), if_pos hl, ← hk]
    cases r.hdPrivToPubKeyIDs ⟨id, hl⟩ <;> rfl
  · rw [dif_pos hl, if_neg hl]; rfl

theorem hdPrivateKeyToPublicKeyID_of_models {r : Registry} {a : Registered} (h : Models r a)
    (id : List UInt8) : hdPrivateKeyToPublicKeyID id r = lastRegistered a.keys id := by
  have hmap := hdPrivateKeyToPublicKeyID_map (fun s => s) (fun k => by rw [h.keys, Option.map_id']) id
  cases e : hdPrivateKeyToPublicKeyID id r <;> rw [e] at hmap <;> exact hmap

/-- From `initWorld` and after any steps, `register` returns `errDuplicateNet` exactly for
    a net already registered (a default one, or one whose `register` returned nil) and then
    leaves the registry as it was; otherwise it returns nil, its prefix written. The
    address ID lookups know exactly the IDs of the registered networks. -/
theorem register_all_or_nothing (steps : List Step) (params : Nat) :
    let w := run initWorld steps
    let nets := [mainNetParams, testNet7Params] ++ registeredBy initWorld steps
    ((register params w.mem w.reg).1 = some .errDuplicateNet ↔
        (w.mem.params params).net ∈ nets.map (·.net)) ∧
    ((register params w.mem w.reg).1 = some .errDuplicateNet →
        (register params w.mem w.reg).2 = w.reg) ∧
    ((register params w.mem w.reg).1 = none ∨
        (register params w.mem w.reg).1 = some .errDuplicateNet) ∧
    ((register params w.mem w.reg).1 = none →
      (register params w.mem w.reg).2.bech32SegwitPrefixes
        ((w.mem.params params).bech32HRPSegwit ++ "1") = true) ∧
    (∀ b, isPubKeyHashAddrID b w.reg = true ↔ b ∈ nets.map (·.pubKeyHashAddrID)) ∧
    (∀ b, isScriptHashAddrID b w.reg = true ↔ b ∈ nets.map (·.scriptHashAddrID)) := by
  intro w nets
  have h : Models w.reg ⟨nets, initRegistered.keys ++ hdRegistrations initWorld steps⟩ :=
    run_models models_init steps
  obtain ⟨he, hm⟩ := exec_models h w.mem (.register params)
  by_cases hn : (w.mem.params params).net ∈ nets.map (·.net)
  · rw [register_duplicate ((h.nets _).2 hn)]
    exact ⟨by simp [hn], fun _ => rfl, .inr rfl, by simp, h.pubKeyHash, h.scriptHash⟩
  · simp only [Call.exec, Registered.err, if_neg hn] at he hm
    rw [he]
    exact ⟨by simp [hn], by simp, .inl rfl,
      fun _ => (hm.bech32 _).2 (by simp [Registered.record, Call.newNets]), h.pubKeyHash,
      h.scriptHash⟩

/-- Two networks with the SLIP-0132 key IDs of BIP49 (`yprv`, `ypub`) and of BIP84
    (`zprv`, `zpub`). -/
def bip49Params : Params where
  net := 0x52564e31
  bech32HRPSegwit := "r1"
  pubKeyHashAddrID := 0x00
  scriptHashAddrID := 0x05
  hdPrivateKeyID := ⟨[0x04, 0x9d, 0x78, 0x78], rfl⟩
  hdPublicKeyID := ⟨[0x04, 0x9d, 0x7c, 0xb2], rfl⟩

def bip84Params : Params where
  net := 0x52564e32
  bech32HRPSegwit := "r2"
  pubKeyHashAddrID := 0x00
  scriptHashAddrID := 0x05
  hdPrivateKeyID := ⟨[0x04, 0xb2, 0x43, 0x0c], rfl⟩
  hdPublicKeyID := ⟨[0x04, 0xb2, 0x47, 0x46], rfl⟩

/-- `for _, p := range []Params{bip49Params, bip84Params} { Register(&p) }` in Go 1.15: the
    loop variable `p`, at address 2, is one variable, given each element in turn. -/
def rangeLoop : List Step :=
  [.write (initMem.setParams 2 bip49Params), .call (.register 2),
    .write ((initMem.setParams 2 bip49Params).setParams 2 bip84Params), .call (.register 2)]

/-- The prefix lookup lower-cases the query and compares it with the prefixes as
    registered, which `register` does not lower-case. -/
theorem isBech32SegwitPrefix_iff (unicodeToLower : UnicodeToLower) (steps : List Step)
    (s : String) :
    isBech32SegwitPrefix unicodeToLower s (run initWorld steps).reg = true ↔
      ∃ p ∈ [mainNetParams, testNet7Params] ++ registeredBy initWorld steps,
        p.bech32HRPSegwit ++ "1" = toLower unicodeToLower s :=
  ((run_models models_init steps).bech32 (toLower unicodeToLower s)).trans List.mem_map

/-- A network whose human-readable part is written in upper case. -/
def upperHRPParams : Params := { testNet7Params with net := 0x52564e55, bech32HRPSegwit := "RC" }

theorem upper_hrp_prefix_unrecognised (unicodeToLower : UnicodeToLower) :
    let m := initMem.setParams 2 upperHRPParams
    (register 2 m initRegistry).1 = none ∧
      toLower unicodeToLower "RC1" = toLower unicodeToLower (upperHRPParams.bech32HRPSegwit ++ "1") ∧
      isBech32SegwitPrefix unicodeToLower "RC1" (register 2 m initRegistry).2 = false := by
  intro m
  refine ⟨by decide, congrArg (toLower unicodeToLower) rfl, ?_⟩
  rw [isBech32SegwitPrefix, toLower_ascii unicodeToLower (by decide)]
  decide

end RosettaRavencoin.Chaincfg

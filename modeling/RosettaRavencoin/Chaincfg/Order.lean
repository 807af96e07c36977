/-
  RosettaRavencoin.Chaincfg.Order — how the registry's calls compose, from any world.

  No step removes anything (`exec_extends`, `step_extends`): the four sets only grow, and
  a private key ID once mapped stays mapped, whatever the memory holds. So a network once
  registered can never be registered again, whatever runs in between
  (`registrations_permanent`).

  Two calls on one memory commute unless they register one `Net`, or write one private
  key ID with two public key ID slices (`Call.Independent`, `exec_comm`). With no write
  between them, any reordering of pairwise independent calls leaves the same registry,
  each call returning the same error (`run_perm`): `Register` is first-writer-wins per
  `Net` and `RegisterHDKeyID` last-writer-wins per private key ID, and those are the only
  orders that matter.

  A chain of `mustRegister` calls, as `init` makes, panics exactly when two of its networks
  share a `Net` or one is already registered, and always with the message of
  `ErrDuplicateNet` (`mustRegister_foldlM`).

  Proved:
  - `exec_extends`, `step_extends`, `run_extends`, `registrations_permanent`: runs only add.
  - `register_comm`, `register_registerHDKeyID_comm`, `registerHDKeyID_comm`, `exec_comm`,
    `exec_fst_of_independent`, `run_perm`: independent calls commute and do not change each
    other's errors, so their order does not matter.
  - `mustRegister_foldlM`: the panics of a chain of `mustRegister`.
-/

import RosettaRavencoin.Chaincfg.Registry

namespace RosettaRavencoin.Chaincfg

open Go

/-! ## Runs only add -/

/-- `r'` knows every network, address ID and prefix `r` knows, and maps every private key
    ID `r` maps. -/
structure Registry.Extends (r r' : Registry) : Prop where
  nets : ∀ n, r.registeredNets n = true → r'.registeredNets n = true
  pubKeyHash : ∀ b, r.pubKeyHashAddrIDs b = true → r'.pubKeyHashAddrIDs b = true
  scriptHash : ∀ b, r.scriptHashAddrIDs b = true → r'.scriptHashAddrIDs b = true
  bech32 : ∀ s, r.bech32SegwitPrefixes s = true → r'.bech32SegwitPrefixes s = true
  keys : ∀ k, (r.hdPrivToPubKeyIDs k).isSome → (r'.hdPrivToPubKeyIDs k).isSome

theorem Registry.Extends.refl (r : Registry) : r.Extends r :=
  ⟨fun _ => id, fun _ => id, fun _ => id, fun _ => id, fun _ => id⟩

theorem Registry.Extends.trans {r₁ r₂ r₃ : Registry} (h₁ : r₁.Extends r₂)
    (h₂ : r₂.Extends r₃) : r₁.Extends r₃ :=
  ⟨fun n h => h₂.nets n (h₁.nets n h), fun b h => h₂.pubKeyHash b (h₁.pubKeyHash b h),
    fun b h => h₂.scriptHash b (h₁.scriptHash b h), fun s h => h₂.bech32 s (h₁.bech32 s h),
    fun k h => h₂.keys k (h₁.keys k h)⟩

theorem isSome_update_some {α β : Type} [DecidableEq α] (f : α → Option β) (a : α) (v : β)
    {x : α} (h : (f x).isSome) : (Function.update f a (some v) x).isSome := by
  rcases eq_or_ne x a with rfl | hx <;> simp [*]

theorem exec_extends (c : Call) (m : Mem) (r : Registry) : r.Extends (c.exec m r).2 := by
  cases c with
  | register params =>
    cases h : r.registeredNets (m.params params).net
    · rw [Call.exec, register_new h]
      exact ⟨fun _ hn => by simp [hn], fun _ hb => by simp [hb], fun _ hb => by simp [hb],
        fun _ hs => by simp [hs], fun _ => isSome_update_some _ _ _⟩
    · rw [Call.exec, register_duplicate h]; exact .refl r
  | registerHDKeyID pub priv =>
    by_cases hl : pub.len = 4 ∧ priv.length = 4
    · rw [Call.exec, registerHDKeyID_valid hl.1 hl.2]
      exact ⟨fun _ => id, fun _ => id, fun _ => id, fun _ => id,
        fun _ => isSome_update_some _ _ _⟩
    · have hl : pub.len ≠ 4 ∨ priv.length ≠ 4 := by omega
      rw [Call.exec, registerHDKeyID_invalid hl]; exact .refl r

theorem step_extends (s : Step) (w : World) : w.reg.Extends (s.exec w).2.reg := by
  cases s with
  | call c => exact exec_extends c w.mem w.reg
  | write m => exact .refl w.reg

theorem run_extends (w : World) (steps : List Step) : w.reg.Extends (run w steps).reg := by
  induction steps generalizing w with
  | nil => exact .refl w.reg
  | cons s ss ih => exact (step_extends s w).trans (ih _)

/-- From any world and after any steps, nothing the registry knew is lost, and a `Register`
    of a variable whose `Net`, as it holds it then, was registered before the steps fails and
    changes nothing. -/
theorem registrations_permanent (w : World) (steps : List Step) (params : Nat) :
    w.reg.Extends (run w steps).reg ∧
      (w.reg.registeredNets ((run w steps).mem.params params).net = true →
        register params (run w steps).mem (run w steps).reg =
          (some .errDuplicateNet, (run w steps).reg)) :=
  ⟨run_extends w steps, fun h => register_duplicate ((run_extends w steps).nets _ h)⟩

/-! ## Independent calls commute -/

theorem update_comm_of {α β : Type} [DecidableEq α] (f : α → β) {a b : α} {v w : β}
    (h : a = b → v = w) :
    Function.update (Function.update f a v) b w = Function.update (Function.update f b w) a v := by
  by_cases hab : a = b
  · subst hab; rw [h rfl]
  · exact Function.update_comm hab v w f

section
variable {params q : Nat} {m : Mem} {pub pub' : Slice} {priv priv' : List UInt8} {r : Registry}

theorem register_comm (hnet : (m.params params).net ≠ (m.params q).net)
    (hkey : (m.params params).hdPrivateKeyID = (m.params q).hdPrivateKeyID →
      Slice.hdPublicKeyID params = .hdPublicKeyID q) :
    (register q m (register params m r).2).2 = (register params m (register q m r).2).2 := by
  cases hp : r.registeredNets (m.params params).net
  · cases hq : r.registeredNets (m.params q).net
    · have hq' : (register params m r).2.registeredNets (m.params q).net = false := by
        simp [register_registeredNets, hq, Ne.symm hnet]
      have hp' : (register q m r).2.registeredNets (m.params params).net = false := by
        simp [register_registeredNets, hp, hnet]
      rw [register_new hq', register_new hp', register_new hp, register_new hq]
      dsimp only
      congr 1 <;> try exact update_comm_of _ fun _ => rfl
      exact update_comm_of _ fun h => by rw [hkey h]
    · have hq' : (register params m r).2.registeredNets (m.params q).net = true := by
        simp [register_registeredNets, hq]
      rw [register_duplicate hq', register_duplicate hq]
  · have hp' : (register q m r).2.registeredNets (m.params params).net = true := by
      simp [register_registeredNets, hp]
    rw [register_duplicate hp', register_duplicate hp]

theorem register_registerHDKeyID_comm
    (hkey : pub.len = 4 ∧ priv.length = 4 → priv = (m.params params).hdPrivateKeyID.toList →
      pub = .hdPublicKeyID params) :
    (registerHDKeyID pub priv (register params m r).2).2 =
      (register params m (registerHDKeyID pub priv r).2).2 := by
  by_cases hl : pub.len = 4 ∧ priv.length = 4
  · cases hp : r.registeredNets (m.params params).net
    · have hp' : (registerHDKeyID pub priv r).2.registeredNets (m.params params).net = false := by
        rw [registerHDKeyID_registeredNets, hp]
      rw [register_new hp', registerHDKeyID_valid hl.1 hl.2, register_new hp,
        registerHDKeyID_valid hl.1 hl.2]
      dsimp only
      congr 1
      exact update_comm_of _ fun h => by rw [hkey hl (congrArg Subtype.val h).symm]
    · have hp' : (registerHDKeyID pub priv r).2.registeredNets (m.params params).net = true := by
        rw [registerHDKeyID_registeredNets, hp]
      rw [register_duplicate hp', register_duplicate hp]
  · have hl : pub.len ≠ 4 ∨ priv.length ≠ 4 := by omega
    rw [registerHDKeyID_invalid hl, registerHDKeyID_invalid hl]

theorem registerHDKeyID_comm
    (hkey : pub.len = 4 ∧ priv.length = 4 → pub'.len = 4 ∧ priv'.length = 4 →
      priv = priv' → pub = pub') :
    (registerHDKeyID pub' priv' (registerHDKeyID pub priv r).2).2 =
      (registerHDKeyID pub priv (registerHDKeyID pub' priv' r).2).2 := by
  by_cases hl : pub.len = 4 ∧ priv.length = 4
  · by_cases hl' : pub'.len = 4 ∧ priv'.length = 4
    · rw [registerHDKeyID_valid hl.1 hl.2, registerHDKeyID_valid hl'.1 hl'.2,
        registerHDKeyID_valid hl.1 hl.2, registerHDKeyID_valid hl'.1 hl'.2]
      dsimp only
      congr 1
      exact update_comm_of _ fun h => by rw [hkey hl hl' (congrArg Subtype.val h)]
    · have hl' : pub'.len ≠ 4 ∨ priv'.length ≠ 4 := by omega
      rw [registerHDKeyID_invalid hl', registerHDKeyID_invalid hl']
  · have hl : pub.len ≠ 4 ∨ priv.length ≠ 4 := by omega
    rw [registerHDKeyID_invalid hl, registerHDKeyID_invalid hl]

end

/-- The `Net` a call registers, as the memory `m` holds it. -/
def Call.net? (m : Mem) : Call → Option RavencoinNet
  | .register params => some (m.params params).net
  | .registerHDKeyID _ _ => none

/-- Two calls, made on the memory `m`, that register different `Net`s and write no private
    key ID with two different public key ID slices. -/
def Call.Independent (m : Mem) (c d : Call) : Prop :=
  (∀ n ∈ c.net? m, n ∉ d.net? m) ∧
    ∀ k ∈ c.newKeys m none, ∀ k' ∈ d.newKeys m none, k.1 = k'.1 → k.2 = k'.2

instance (m : Mem) (c d : Call) : Decidable (c.Independent m d) :=
  inferInstanceAs (Decidable ((∀ n ∈ c.net? m, n ∉ d.net? m) ∧
    ∀ k ∈ c.newKeys m none, ∀ k' ∈ d.newKeys m none, k.1 = k'.1 → k.2 = k'.2))

section
variable {m : Mem}

theorem Call.Independent.symm {c d : Call} (h : c.Independent m d) : d.Independent m c :=
  ⟨fun n hd hc => h.1 n hc hd, fun k hk k' hk' he => (h.2 k' hk' k hk he.symm).symm⟩

theorem Call.Independent.net_ne {params q : Nat}
    (h : (Call.register params).Independent m (.register q)) :
    (m.params params).net ≠ (m.params q).net :=
  fun e => h.1 _ rfl (congrArg some e.symm)

theorem mem_newKeys_registerHDKeyID {pub : Slice} {priv : List UInt8}
    (hl : pub.len = 4 ∧ priv.length = 4) :
    (priv, pub) ∈ (Call.registerHDKeyID pub priv).newKeys m none := by
  simp [Call.newKeys, hl]

/-- Two independent calls in either order leave the same registry. -/
theorem exec_comm {c d : Call} (h : c.Independent m d) (r : Registry) :
    (d.exec m (c.exec m r).2).2 = (c.exec m (d.exec m r).2).2 := by
  cases c with
  | register params =>
    cases d with
    | register q =>
      exact register_comm h.net_ne fun e =>
        h.2 _ (List.mem_singleton_self _) _ (List.mem_singleton_self _)
          (congrArg Mathlib.Vector.toList e)
    | registerHDKeyID pub priv =>
      exact register_registerHDKeyID_comm fun hl e =>
        (h.2 _ (List.mem_singleton_self _) _ (mem_newKeys_registerHDKeyID hl) e.symm).symm
  | registerHDKeyID pub priv =>
    cases d with
    | register q =>
      exact (register_registerHDKeyID_comm fun hl e =>
        h.2 _ (mem_newKeys_registerHDKeyID hl) _ (List.mem_singleton_self _) e).symm
    | registerHDKeyID pub' priv' =>
      exact registerHDKeyID_comm fun hl hl' e =>
        h.2 _ (mem_newKeys_registerHDKeyID hl) _ (mem_newKeys_registerHDKeyID hl') e

/-- An independent call does not change the error another returns. -/
theorem exec_fst_of_independent {c d : Call} (h : c.Independent m d) (r : Registry) :
    (d.exec m (c.exec m r).2).1 = (d.exec m r).1 := by
  cases d with
  | registerHDKeyID pub priv => simp only [Call.exec, registerHDKeyID_fst]
  | register q =>
    have hn : (c.exec m r).2.registeredNets (m.params q).net = r.registeredNets (m.params q).net := by
      cases c with
      | register params =>
        simp [Call.exec, register_registeredNets, Ne.symm h.net_ne]
      | registerHDKeyID pub priv => simp [Call.exec]
    show (register q m (c.exec m r).2).1 = (register q m r).1
    rw [register_fst, register_fst, hn]

end

/-- The errors the steps return, in order; a write returns none. -/
def results (w : World) : List Step → List (Option Error)
  | [] => []
  | s :: ss => (s.exec w).1 :: results (s.exec w).2 ss

/-- With no write between them, any reordering of pairwise independent calls leaves the same
    world, and every call returns the same error as in the original order. -/
theorem run_perm {calls calls' : List Call} (m : Mem) (hp : calls.Perm calls')
    (h : calls.Pairwise (Call.Independent m)) (r : Registry) :
    run ⟨m, r⟩ (calls.map .call) = run ⟨m, r⟩ (calls'.map .call) ∧
      (calls.zip (results ⟨m, r⟩ (calls.map .call))).Perm
        (calls'.zip (results ⟨m, r⟩ (calls'.map .call))) := by
  induction hp generalizing r with
  | nil => exact ⟨rfl, .nil⟩
  | cons c _ ih =>
    obtain ⟨hrun, hres⟩ := ih (List.pairwise_cons.1 h).2 (c.exec m r).2
    exact ⟨hrun, .cons _ hres⟩
  | swap c d cs =>
    have hdc : d.Independent m c := (List.pairwise_cons.1 h).1 c (List.mem_cons_self _ _)
    simp only [List.map_cons, run_cons, results, List.zip_cons_cons, Step.exec]
    rw [exec_comm hdc, exec_fst_of_independent hdc, exec_fst_of_independent hdc.symm]
    exact ⟨rfl, .swap _ _ _⟩
  | trans h₁₂ _ ih₁ ih₂ =>
    obtain ⟨hrun₁, hres₁⟩ := ih₁ h r
    obtain ⟨hrun₂, hres₂⟩ := ih₂ (h₁₂.pairwise h Call.Independent.symm) r
    exact ⟨hrun₁.trans hrun₂, hres₁.trans hres₂⟩

/-- Registering the two default networks in the other order leaves the registry `init`
    leaves. -/
theorem run_perm_defaults :
    [Call.register mainNetParamsAddr, .register testNet7ParamsAddr].Perm
        [.register testNet7ParamsAddr, .register mainNetParamsAddr] ∧
      [Call.register mainNetParamsAddr, .register testNet7ParamsAddr].Pairwise
        (Call.Independent initMem) ∧
      (run ⟨initMem, Registry.empty⟩
        ([Call.register testNet7ParamsAddr, .register mainNetParamsAddr].map .call)).reg =
        initRegistry :=
  ⟨.swap _ _ _, by decide,
    (congrArg World.reg (run_perm initMem (.swap _ _ _) (by decide) Registry.empty).1).symm⟩

/-! ## A chain of `mustRegister` -/

/-- `mustRegister` over the variables `ps` in order, as `init` calls it, panics exactly when
    two of the networks share a `Net` or one is registered already, always with the message
    of `ErrDuplicateNet`; otherwise it leaves the registry of the `Register` calls. -/
theorem mustRegister_foldlM (ps : List Nat) (m : Mem) (r : Registry) :
    ps.foldlM (fun r params => mustRegister params m r) r =
      if (ps.map fun p => (m.params p).net).Nodup ∧
          ∀ p ∈ ps, r.registeredNets (m.params p).net = false then
        .ok (run ⟨m, r⟩ (ps.map fun p => .call (.register p))).reg
      else .error "failed to register network: duplicate Ravencoin network" := by
  induction ps generalizing r with
  | nil => simp [run]; rfl
  | cons p ps ih =>
    rw [List.foldlM_cons]
    cases h : r.registeredNets (m.params p).net
    · have hm : mustRegister p m r = .ok (register p m r).2 := by
        simp [mustRegister, register_new h]
      have hc : ((ps.map fun q => (m.params q).net).Nodup ∧
            ∀ q ∈ ps, (register p m r).2.registeredNets (m.params q).net = false) ↔
          ((p :: ps).map fun q => (m.params q).net).Nodup ∧
            ∀ q ∈ p :: ps, r.registeredNets (m.params q).net = false := by
        simp only [register_registeredNets, Bool.or_eq_false_iff, beq_eq_false_iff_ne, forall_and,
          List.map_cons, List.nodup_cons, List.mem_map, List.forall_mem_cons, h, true_and,
          not_exists, not_and]
        exact ⟨fun ⟨hd, hr, hp⟩ => ⟨⟨hp, hd⟩, hr⟩, fun ⟨⟨hp, hd⟩, hr⟩ => ⟨hd, hr, hp⟩⟩
      rw [hm]
      exact (ih _).trans (if_congr hc rfl rfl)
    · have hm : mustRegister p m r =
          .error "failed to register network: duplicate Ravencoin network" := by
        simp [mustRegister, register_duplicate h, Error.error]
      rw [hm, if_neg (by simp [h])]
      rfl

end RosettaRavencoin.Chaincfg

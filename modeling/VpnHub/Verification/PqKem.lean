import VpnHub.Library.Kem
import VpnHub.Program.PqKem

/-! # The hybrid key exchange

The two mechanisms side by side, and what both ends compute when public key and ciphertext go over
the wire. -/

namespace VpnHub.Crypto

variable {D E : Type} {env : KemEnv D E}

/-! ## The wire -/

theorem splitHybrid_append (what : String) (front : FixedBytes 32) (back : Bytes) :
    splitHybrid what (front.val ++ back) = .ok (front, back) := by
  have hlength : ¬ (front.val ++ back).length < 32 := by
    rw [List.length_append, front.property]
    omega
  rw [splitHybrid, dif_neg hlength]
  refine congrArg Except.ok (Prod.ext (Subtype.ext ?_) ?_)
  · simp only [FixedBytes.copyFrom, List.drop_zero]
    exact List.take_left' front.property
  · exact List.drop_left' front.property

theorem HybridKemPublicKey.fromBytes_toBytes (key : HybridKemPublicKey) :
    fromBytes key.toBytes = .ok key := by
  rw [fromBytes, toBytes, splitHybrid_append]
  rfl

theorem HybridKemCiphertext.fromBytes_toBytes (cipher : HybridKemCiphertext) :
    fromBytes cipher.toBytes = .ok cipher := by
  rw [fromBytes, toBytes, splitHybrid_append]
  rfl

/-! ## The two mechanisms -/

/-- What the exchange relies on. -/
structure KemContract (env : KemEnv D E) : Prop where
  exchange : ∀ s t, env.x25519.diffieHellman s (env.x25519.publicKey t) =
    env.x25519.diffieHellman t (env.x25519.publicKey s)
  hkdf : ∀ salt ikm info n, n ≤ 255 * 32 → ∃ okm, env.hkdf salt ikm info n = .ok okm

namespace KemEnv

/-- ML-KEM from seeds to bytes. A seed of a wrong length has no public key. -/
def mlKemOfSeed (env : KemEnv D E) :
    Kem Bytes Bytes (FixedBytes 32) Bytes Bytes CryptoError where
  publicKey seed :=
    match env.mlKem.decapsulationKey seed with
    | .ok d => env.mlKem.toBytes (env.mlKem.encapsulationKeyOf d)
    | .error _ => []
  encapsulate peer random := ((env.mlKem.encapsulationKey peer).mapError fun e =>
    .postQuantumKemError ("Invalid ML-KEM public key: ".toList ++ e)).map
      (env.mlKem.encapsulate · random)
  decapsulate seed cipher := do
    let d ← (env.mlKem.decapsulationKey seed).mapError invalidSeed
    (env.mlKem.decapsulateSlice d cipher).mapError fun e =>
      .postQuantumKemError ("ML-KEM decapsulation failed: ".toList ++ e)

def hybrid (env : KemEnv D E) : Kem (FixedBytes 32 × Bytes) (FixedBytes 32 × Bytes)
    (FixedBytes 32 × FixedBytes 32) (FixedBytes 32 × Bytes) (FixedBytes 32) CryptoError :=
  (Kem.ofExchange CryptoError env.x25519.publicKey env.x25519.diffieHellman).combine
    env.mlKemOfSeed (combineSecrets env)

end KemEnv

theorem hybridEncapsulate_eq (peer : HybridKemPublicKey) (ephemeralBytes random : FixedBytes 32) :
    hybridEncapsulate env peer ephemeralBytes random =
      (env.hybrid.encapsulate (peer.x25519Public, peer.mlKemPublic) (ephemeralBytes, random)).map
        fun out => (⟨out.1.1, out.1.2⟩, out.2) := by
  unfold hybridEncapsulate KemEnv.hybrid Kem.combine Kem.ofExchange KemEnv.mlKemOfSeed
  cases hkey : env.mlKem.encapsulationKey peer.mlKemPublic with
  | error e => simp [hkey, Except.mapError, Except.map, bind, Except.bind]
  | ok key =>
      simp only [hkey, Except.mapError, Except.map, bind, Except.bind]
      cases combineSecrets env (env.x25519.diffieHellman ephemeralBytes peer.x25519Public)
        (env.mlKem.encapsulate key random).2 <;> rfl

namespace HybridKemKeyPair

theorem decapsulate_eq (keyPair : HybridKemKeyPair) (cipher : HybridKemCiphertext) :
    keyPair.decapsulate env cipher =
      env.hybrid.decapsulate (keyPair.privateKey.x25519Private, keyPair.privateKey.mlKemSeed)
        (cipher.x25519EphemeralPublic, cipher.mlKemCiphertext) := by
  unfold decapsulate KemEnv.hybrid Kem.combine Kem.ofExchange KemEnv.mlKemOfSeed
  cases hkey : env.mlKem.decapsulationKey keyPair.privateKey.mlKemSeed with
  | error e => simp [hkey, Except.mapError, bind, Except.bind]
  | ok key => simp [hkey, Except.mapError, bind, Except.bind]

theorem keys_of_fromSeeds {x25519Seed : FixedBytes 32} {mlKemSeed : FixedBytes 64}
    {keyPair : HybridKemKeyPair} (h : fromSeeds env x25519Seed mlKemSeed = .ok keyPair) :
    keyPair.privateKey = ⟨x25519Seed, mlKemSeed.val⟩ ∧
      (keyPair.publicKey.x25519Public, keyPair.publicKey.mlKemPublic) =
        env.hybrid.publicKey (x25519Seed, mlKemSeed.val) := by
  unfold fromSeeds at h
  cases hkey : env.mlKem.decapsulationKey mlKemSeed.val with
  | error e =>
      rw [hkey] at h
      cases h
  | ok d =>
      rw [hkey] at h
      obtain rfl := Except.ok.inj h
      refine ⟨rfl, ?_⟩
      simp only [KemEnv.hybrid, Kem.combine, Kem.ofExchange, KemEnv.mlKemOfSeed, hkey]

end HybridKemKeyPair

theorem KemContract.combineSecrets (contract : KemContract env) (x25519Secret : FixedBytes 32)
    (mlKemSecret : Bytes) :
    ∃ secret, combineSecrets env x25519Secret mlKemSecret = .ok secret := by
  obtain ⟨okm, hokm⟩ := contract.hkdf none (x25519Secret.val ++ mlKemSecret)
    (Text.utf8Encode "openvpn3-rs hybrid post-quantum key exchange".toList) 32 (by decide)
  exact ⟨okm, by rw [Crypto.combineSecrets, hkdfSha256, hokm]; rfl⟩

/-! ## Both ends -/

namespace HybridKemKeyPair

variable {x25519Seed : FixedBytes 32} {mlKemSeed : FixedBytes 64} {keyPair : HybridKemKeyPair}

/-- Public key and ciphertext are sent as bytes, and both ends derive one secret, provided that
ML-KEM does not meet one of its rare failures. -/
theorem agree_over_wire (contract : KemContract env)
    (hpair : fromSeeds env x25519Seed mlKemSeed = .ok keyPair) (ephemeralBytes : FixedBytes 32)
    {random : FixedBytes 32} (hmlKem : env.mlKemOfSeed.Agrees mlKemSeed.val random) :
    ∃ peer cipher received secret,
      HybridKemPublicKey.fromBytes keyPair.publicKey.toBytes = .ok peer ∧
        hybridEncapsulate env peer ephemeralBytes random = .ok (cipher, secret) ∧
        HybridKemCiphertext.fromBytes cipher.toBytes = .ok received ∧
        keyPair.decapsulate env received = .ok secret := by
  obtain ⟨hprivate, hpublic⟩ := keys_of_fromSeeds hpair
  have hagrees : env.hybrid.Agrees (x25519Seed, mlKemSeed.val) (ephemeralBytes, random) :=
    (Kem.agrees_ofExchange contract.exchange x25519Seed ephemeralBytes).combine hmlKem
      contract.combineSecrets
  obtain ⟨cipher, secret, hencapsulate, hdecapsulate⟩ := hagrees
  refine ⟨keyPair.publicKey, ⟨cipher.1, cipher.2⟩, ⟨cipher.1, cipher.2⟩, secret,
    HybridKemPublicKey.fromBytes_toBytes _, ?_, HybridKemCiphertext.fromBytes_toBytes _, ?_⟩
  · rw [hybridEncapsulate_eq, hpublic, hencapsulate]
    rfl
  · rw [decapsulate_eq, hprivate]
    exact hdecapsulate

end HybridKemKeyPair

/-! ## Toy primitives -/

namespace Sample

def addBytes (xs ys : Bytes) : Bytes := List.zipWith (· + ·) xs ys

theorem addBytes_comm (xs ys : Bytes) : addBytes xs ys = addBytes ys xs :=
  List.zipWith_comm_of_comm (fun x y => UInt8.add_comm x y)

/-- Keys are seeds. The ciphertext is the random value with padding, and the shared key the sum of
both. -/
def mlKem : MlKem Bytes Bytes where
  decapsulationKey seed := if seed.length = 64 then .ok seed else .error "InvalidLength".toList
  encapsulationKeyOf seed := seed
  toBytes key := key ++ List.replicate 1120 0
  encapsulationKey bytes :=
    if bytes.length = 1184 then .ok (bytes.take 64) else .error "InvalidKey".toList
  encapsulate key random := (random.val ++ List.replicate 1056 0, addBytes key random.val)
  decapsulateSlice seed cipher :=
    if cipher.length = 1088 then .ok (addBytes seed (cipher.take 32))
    else .error "TryFromSliceError".toList

def kemEnv : KemEnv Bytes Bytes where
  x25519 := {
    publicKey := id
    diffieHellman := fun s t => ⟨addBytes s.val t.val, by
      rw [addBytes, List.length_zipWith, s.property, t.property, Nat.min_self]⟩ }
  mlKem := mlKem
  hkdf := fun _ ikm _ n =>
    if n ≤ 255 * 32 then .ok (.copyFrom (ikm ++ List.replicate n 0) 0 (by simp))
    else .error "InvalidLength".toList

theorem kemEnv_contract : KemContract kemEnv where
  exchange s t := Subtype.ext (addBytes_comm s.val t.val)
  hkdf _ _ _ _ hn := ⟨_, if_pos hn⟩

theorem mlKem_agrees (seed : FixedBytes 64) (random : FixedBytes 32) :
    kemEnv.mlKemOfSeed.Agrees seed.val random := by
  have hkey : mlKem.decapsulationKey seed.val = .ok seed.val := if_pos seed.property
  have hpublic : mlKem.encapsulationKey (mlKem.toBytes seed.val) = .ok seed.val := by
    rw [mlKem.eq_def]
    dsimp only
    rw [if_pos (by rw [List.length_append, List.length_replicate, seed.property]),
      List.take_left' seed.property]
  have hslice : mlKem.decapsulateSlice seed.val (random.val ++ List.replicate 1056 0) =
      .ok (addBytes seed.val random.val) := by
    rw [mlKem.eq_def]
    dsimp only
    rw [if_pos (by rw [List.length_append, List.length_replicate, random.property]),
      List.take_left' random.property]
  refine ⟨random.val ++ List.replicate 1056 0, addBytes seed.val random.val, ?_, ?_⟩
  · simp only [KemEnv.mlKemOfSeed, kemEnv, hkey]
    show Except.map _ (Except.mapError _ (mlKem.encapsulationKey (mlKem.toBytes seed.val))) = _
    rw [hpublic]
    rfl
  · simp only [KemEnv.mlKemOfSeed, kemEnv, hkey]
    show Except.mapError _ (mlKem.decapsulateSlice seed.val _) = _
    rw [hslice]
    rfl

/-- Bytes that count up. -/
def counting (start n : ℕ) : FixedBytes n :=
  ⟨(List.range' start n).map UInt8.ofNat, by rw [List.length_map, List.length_range']⟩

def seeds : FixedBytes 32 × FixedBytes 64 := (counting 1 32, counting 33 64)

theorem exists_keyPair : ∃ keyPair,
    HybridKemKeyPair.fromSeeds kemEnv seeds.1 seeds.2 = .ok keyPair := by
  have hkey : kemEnv.mlKem.decapsulationKey seeds.2.val = .ok seeds.2.val := by decide
  rw [HybridKemKeyPair.fromSeeds, hkey]
  exact ⟨_, rfl⟩

end Sample

theorem HybridKemKeyPair.agree_over_wire_sample : ∃ keyPair peer cipher received secret,
    fromSeeds Sample.kemEnv Sample.seeds.1 Sample.seeds.2 = .ok keyPair ∧
      HybridKemPublicKey.fromBytes keyPair.publicKey.toBytes = .ok peer ∧
      hybridEncapsulate Sample.kemEnv peer (Sample.counting 97 32) (Sample.counting 129 32) =
        .ok (cipher, secret) ∧
      HybridKemCiphertext.fromBytes cipher.toBytes = .ok received ∧
      keyPair.decapsulate Sample.kemEnv received = .ok secret := by
  obtain ⟨keyPair, hpair⟩ := Sample.exists_keyPair
  obtain ⟨peer, cipher, received, secret, h⟩ := agree_over_wire Sample.kemEnv_contract hpair
    (Sample.counting 97 32) (Sample.mlKem_agrees Sample.seeds.2 (Sample.counting 129 32))
  exact ⟨keyPair, peer, cipher, received, secret, hpair, h⟩

end VpnHub.Crypto

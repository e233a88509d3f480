import MucOpcua.Security.SymChunk

/-!
# The streams of the key derivations

P_hash of RFC 5246 and HKDF of RFC 5869 as streams of bytes, for an HMAC that is a function.
-/

namespace MucOpcua

variable {ω : Type} {crypto : CryptoAdapter ω} {hmac : List UInt8 → List UInt8 → Mac}

def CryptoAdapter.Computes (crypto : CryptoAdapter ω) (hmac : List UInt8 → List UInt8 → Mac) : Prop :=
  ∀ key data, crypto.hmacSha256 key data = .ok (hmac key data)

/-! ## Streams of blocks -/

def streamByte (block : Nat → Mac) (i : Nat) : UInt8 :=
  (block (i / 32)).get ⟨i % 32, Nat.mod_lt _ (by decide)⟩

section

variable (block : Nat → Mac) (i k : Nat)

theorem block_eq_bytes :
    (block i).toList = (List.range 32).map fun j => streamByte block (32 * i + j) := by
  apply List.ext_getElem
  · simp
  · intro j hj _
    have hj : j < 32 := by simpa using hj
    have hdiv : (32 * i + j) / 32 = i := by omega
    have hmod : (32 * i + j) % 32 = j := by omega
    simp only [List.getElem_map,List.getElem_range,streamByte,hmod]
    rw [hdiv]
    rfl

theorem block_append_bytes :
    (block i).toList ++ (List.range (32 * k)).map (fun j => streamByte block (32 * (i + 1) + j)) =
      (List.range (32 * (k + 1))).map fun j => streamByte block (32 * i + j) := by
  have hrange : List.range (32 * (k + 1)) = List.range 32 ++ (List.range (32 * k)).map (32 + ·) := by
    rw [← List.range_add,Nat.mul_succ,Nat.add_comm]
  rw [block_eq_bytes,hrange,List.map_append,List.map_map]
  congr 2
  funext j
  exact congrArg (streamByte block) (by dsimp only; omega)

end

theorem take_bytes (f : Nat → UInt8) {m n : Nat} (h : m ≤ n) :
    ((List.range n).map f).take m = (List.range m).map f := by
  rw [← List.map_take,List.take_range,Nat.min_eq_left h]

/-! ## P_hash -/

section

variable (hmac) (secret seed : List UInt8)

def pHashA : Nat → List UInt8
  | 0 => seed
  | i + 1 => (hmac secret (pHashA i)).toList

def pHashBlock (i : Nat) : Mac := hmac secret (pHashA hmac secret seed (i + 1) ++ seed)

variable {hmac}

theorem pSha256Blocks_eq (h : crypto.Computes hmac) (k i : Nat) :
    pSha256Blocks crypto secret seed k (hmac secret (pHashA hmac secret seed i)) =
      .ok ((List.range (32 * k)).map fun j =>
        streamByte (pHashBlock hmac secret seed) (32 * i + j)) := by
  induction k generalizing i with
  | zero => rfl
  | succ k ih =>
    have hrest := ih (i + 1)
    rw [pHashA] at hrest
    simp only [pSha256Blocks,h _ _,bind,Except.bind,hrest]
    exact congrArg Except.ok (block_append_bytes (pHashBlock hmac secret seed) i k)

variable {secret seed}

theorem pSha256_eq (h : crypto.Computes hmac) (hseed : seed.length ≤ kdfMaxSeed) (n : Nat) :
    pSha256 crypto secret seed n =
      .ok ((List.range n).map (streamByte (pHashBlock hmac secret seed))) := by
  have hblocks := pSha256Blocks_eq secret seed h ((n + 31) / 32) 0
  simp only [Nat.mul_zero,Nat.zero_add,pHashA] at hblocks
  unfold pSha256
  rw [if_neg (Nat.not_lt.mpr hseed)]
  simp only [h _ _,hblocks,bind,Except.bind,pure,Except.pure]
  rw [take_bytes _ (by omega)]

end

/-! ## HKDF -/

section

variable (hmac) (prk info : List UInt8)

def hkdfT : Nat → List UInt8
  | 0 => []
  | i + 1 => (hmac prk (hkdfT i ++ info ++ [UInt8.ofNat (i + 1)])).toList

def hkdfBlock (i : Nat) : Mac := hmac prk (hkdfT hmac prk info i ++ info ++ [UInt8.ofNat (i + 1)])

/-- A salt that is not given is 32 zeros. -/
def hkdfPrk (salt ikm : List UInt8) : List UInt8 :=
  (hmac (if salt = [] then List.replicate 32 0 else salt) ikm).toList

variable {hmac}

theorem hkdfBlocks_eq (h : crypto.Computes hmac) (prk : Mac) (k i : Nat) :
    hkdfBlocks crypto prk info k (hkdfT hmac prk.toList info i) (UInt8.ofNat i) =
      .ok ((List.range (32 * k)).map fun j =>
        streamByte (hkdfBlock hmac prk.toList info) (32 * i + j)) := by
  induction k generalizing i with
  | zero => rfl
  | succ k ih =>
    have hcounter : UInt8.ofNat i + 1 = UInt8.ofNat (i + 1) := by simp
    have hrest := ih (i + 1)
    rw [hkdfT] at hrest
    simp only [hkdfBlocks,h _ _,bind,Except.bind,hcounter,hrest]
    exact congrArg Except.ok (block_append_bytes (hkdfBlock hmac prk.toList info) i k)

variable {info}

theorem hkdfSha256_eq (h : crypto.Computes hmac) {salt ikm : List UInt8}
    (hinfo : info.length ≤ hkdfMaxInfo) {n : Nat} (hn : n ≤ 255 * 32) :
    hkdfSha256 crypto salt ikm info n =
      .ok ((List.range n).map (streamByte (hkdfBlock hmac (hkdfPrk hmac salt ikm) info))) := by
  have hblocks (prk : Mac) := hkdfBlocks_eq info h prk ((n + 31) / 32) 0
  simp only [Nat.mul_zero,Nat.zero_add,hkdfT] at hblocks
  unfold hkdfSha256
  rw [if_neg (Nat.not_lt.mpr hinfo),if_neg (Nat.not_lt.mpr hn)]
  simp only [h _ _,bind,Except.bind,List.length_eq_zero_iff]
  have hzero : (0 : UInt8) = UInt8.ofNat 0 := rfl
  rw [hzero,hblocks]
  dsimp only
  rw [take_bytes _ (by omega)]
  rfl

end

/-- Both derivations give the first bytes of their streams, so a shorter output is the beginning of
a longer one. -/
theorem keyDerivation_streams (h : crypto.Computes hmac) :
    (∀ secret seed n, seed.length ≤ kdfMaxSeed →
      let bytes := (List.range n).map (streamByte (pHashBlock hmac secret seed))
      pSha256 crypto secret seed n = .ok bytes ∧
        ∀ m ≤ n, pSha256 crypto secret seed m = .ok (bytes.take m)) ∧
    ∀ salt ikm info n, info.length ≤ hkdfMaxInfo → n ≤ 255 * 32 →
      let bytes := (List.range n).map (streamByte (hkdfBlock hmac (hkdfPrk hmac salt ikm) info))
      hkdfSha256 crypto salt ikm info n = .ok bytes ∧
        ∀ m ≤ n, hkdfSha256 crypto salt ikm info m = .ok (bytes.take m) := by
  refine ⟨fun secret seed n hseed => ?_,fun salt ikm info n hinfo hn => ?_⟩
  · refine ⟨pSha256_eq h hseed n,fun m hm => ?_⟩
    rw [take_bytes _ hm]
    exact pSha256_eq h hseed m
  · refine ⟨hkdfSha256_eq h hinfo hn,fun m hm => ?_⟩
    rw [take_bytes _ hm]
    exact hkdfSha256_eq h hinfo (Nat.le_trans hm hn)

/-- Forty bytes from an HMAC that only depends on the lengths, and the first 33 of them. -/
theorem keyDerivation_streams_forty :
    let hmac := fun key data : List UInt8 =>
      (Vector.replicate 32 (UInt8.ofNat (key.length + data.length)) : Mac)
    let crypto := { refusingCrypto with hmacSha256 := fun key data => .ok (hmac key data) }
    let bytes := (List.range 40).map (streamByte (pHashBlock hmac [1] [2]))
    pSha256 crypto [1] [2] 40 = .ok bytes ∧ pSha256 crypto [1] [2] 33 = .ok (bytes.take 33) := by
  intro hmac crypto bytes
  have hstreams := (keyDerivation_streams (show crypto.Computes hmac from fun _ _ => rfl)).1
  exact ⟨(hstreams [1] [2] 40 (by decide)).1,(hstreams [1] [2] 40 (by decide)).2 33 (by decide)⟩

end MucOpcua

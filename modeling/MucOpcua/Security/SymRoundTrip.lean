import MucOpcua.Encoding.LittleEndian
import MucOpcua.Security.SymChunk

/-!
# Symmetric chunks are read as they were written

What `mu_sym_chunk_wrap` seals, `mu_sym_chunk_unwrap` opens with the same keys, in both modes and
under AEAD.
-/

namespace MucOpcua

open Sticky (ok_of_except_bind)

variable {ω : Type}
variable {mode : MessageSecurityMode}

/-! ## The adapter -/

structure SymInverse (crypto : CryptoAdapter ω) (keys : SymKeys) : Prop where
  cbc : ∀ encrypt,
    keys.cipher crypto.aes128CbcEncrypt crypto.aes256CbcEncryptCtx crypto.aes256CbcEncrypt =
      .ok encrypt →
    ∃ decrypt,
      keys.cipher crypto.aes128CbcDecrypt crypto.aes256CbcDecryptCtx crypto.aes256CbcDecrypt =
        .ok decrypt ∧
      ∀ plain cipher, encrypt plain = .ok cipher →
        (decrypt cipher.val).map Subtype.val = .ok plain
  aead : ∀ encrypt, crypto.chacha20Poly1305Encrypt = some encrypt →
    ∃ decrypt, crypto.chacha20Poly1305Decrypt = some decrypt ∧
      ∀ key iv aad plain cipher tag, encrypt key iv aad plain = .ok (cipher, tag) →
        (decrypt key iv aad tag.toList cipher.val).map Subtype.val = .ok plain

/-! ## The layout of a chunk -/

/-- What is read off a chunk that begins with the header. -/
structure SymHeader (messageType : List UInt8) (total : Nat) (secureChannelId tokenId : UInt32)
    (header : List UInt8) : Prop where
  length : header.length = symHeaderSize
  size : ∀ rest, leGetU32 ((header ++ rest).drop 4) = UInt32.ofNat total
  token : ∀ rest, leGetU32 ((header ++ rest).drop 12) = tokenId
  info : ∀ mode sequenceNumber requestId rest,
    SymChunkInfo.ofChunk mode (header ++ (lePutU32 sequenceNumber ++ lePutU32 requestId ++ rest)) =
      ⟨mode, secureChannelId, tokenId, sequenceNumber, requestId, messageType⟩
  body : ∀ sequenceNumber requestId rest n,
    Buffer.slice (header ++ (lePutU32 sequenceNumber ++ lePutU32 requestId ++ rest))
      (symHeaderSize + 8) n = rest.take n

theorem symChunkHeader_spec {messageType : List UInt8} (h : messageType.length = 3) (total : Nat)
    (secureChannelId tokenId : UInt32) : SymHeader messageType total secureChannelId tokenId
      (symChunkHeader messageType total secureChannelId tokenId) := by
  obtain ⟨a,b,c,rfl⟩ := List.length_eq_three.mp h
  constructor
  · rfl
  · intro rest
    exact leGetU32_lePutU32 _ (lePutU32 secureChannelId ++ (lePutU32 tokenId ++ rest))
  · intro rest
    exact leGetU32_lePutU32 _ rest
  · intro mode sequenceNumber requestId rest
    unfold SymChunkInfo.ofChunk
    congr 1
    · exact leGetU32_lePutU32 _ (lePutU32 tokenId ++
        (lePutU32 sequenceNumber ++ (lePutU32 requestId ++ rest)))
    · exact leGetU32_lePutU32 _ (lePutU32 sequenceNumber ++ (lePutU32 requestId ++ rest))
    · exact leGetU32_lePutU32 _ (lePutU32 requestId ++ rest)
    · exact leGetU32_lePutU32 _ rest
  · intro sequenceNumber requestId rest n
    rfl

theorem SymHeader.toNat_size {messageType header rest : List UInt8} {total : Nat}
    {secureChannelId tokenId : UInt32}
    (h : SymHeader messageType total secureChannelId tokenId header)
    (hsmall : total < 2 ^ 32) : (leGetU32 ((header ++ rest).drop 4)).toNat = total := by
  rw [h.size,UInt32.toNat_ofNat',Nat.mod_eq_of_lt hsmall]

/-! ## Opening -/

def symPadding (mode : MessageSecurityMode) (padCount : Nat) : List UInt8 :=
  if mode = .signAndEncrypt then List.replicate (padCount + 1) (UInt8.ofNat padCount) else []

theorem symChunkPadding_ok {padCount : Nat} {front back : List UInt8}
    (hfront : symHeaderSize + 8 ≤ front.length) (hpad : padCount < 256) :
    symChunkPadding mode (front ++ symPadding mode padCount ++ back)
        (front ++ symPadding mode padCount).length =
      .ok (symPadding mode padCount).length := by
  unfold symChunkPadding symPadding
  by_cases hmode : mode = .signAndEncrypt
  · simp only [if_pos hmode,List.length_append,List.length_replicate]
    have hbyte (i : Nat) (hi : i ≤ padCount) :
        ((front ++ List.replicate (padCount + 1) (UInt8.ofNat padCount) ++ back).getD
          (front.length + (padCount + 1) - 1 - i) 0).toNat = padCount := by
      rw [List.append_assoc,List.getD_append_right _ _ _ _ (by omega),
        List.getD_append _ _ _ _ (by simp; omega),List.getD_eq_getElem _ _ (by simp; omega),
        List.getElem_replicate,UInt8.toNat_ofNat',Nat.mod_eq_of_lt hpad]
    have hlast := hbyte 0 (Nat.zero_le _)
    rw [Nat.sub_zero] at hlast
    rw [hlast,if_neg (by omega),if_neg]
    rintro ⟨i,hi,hne⟩
    exact hne (hbyte (i + 1) (List.mem_range.mp hi))
  · simp [if_neg hmode]

variable {crypto : CryptoAdapter ω} {keys : SymKeys}

theorem symChunkOpen_ok {messageType body header : List UInt8} {total padCount : Nat}
    {secureChannelId tokenId sequenceNumber requestId : UInt32} {mac : Mac}
    (hheader : SymHeader messageType total secureChannelId tokenId header) (hpad : padCount < 256)
    (hmac : crypto.hmacSha256 keys.signingKey (header ++
        (lePutU32 sequenceNumber ++ lePutU32 requestId ++ body ++ symPadding mode padCount)) =
          .ok mac)
    (htotal : total = symHeaderSize + (8 + body.length + (symPadding mode padCount).length) +
      symSigLen) :
    symChunkOpen crypto mode keys (header ++
        (lePutU32 sequenceNumber ++ lePutU32 requestId ++ body ++ symPadding mode padCount) ++
        mac.toList) total =
      .ok (body, ⟨mode, secureChannelId, tokenId, sequenceNumber, requestId, messageType⟩) := by
  have hmacLength : mac.toList.length = symSigLen := by simp [symSigLen]
  generalize hbody : lePutU32 sequenceNumber ++ lePutU32 requestId ++ body = seqbody at hmac ⊢
  have hseqbody : seqbody.length = 8 + body.length := by
    rw [← hbody]
    simp only [List.length_append,length_lePutU32]
  generalize hsigned : header ++ (seqbody ++ symPadding mode padCount) = signed at hmac ⊢
  have hlength : signed.length = total - symSigLen := by
    rw [← hsigned,List.length_append,List.length_append,hheader.length]
    omega
  have hverify : symChunkVerify crypto keys (signed ++ mac.toList) (total - symSigLen) = .ok () := by
    unfold symChunkVerify Buffer.slice
    rw [← hlength,List.take_left,List.drop_left,List.take_of_length_le (by omega),hmac]
    simp [bind,Except.bind,pure,Except.pure]
  have hpadding : symChunkPadding mode (signed ++ mac.toList) (total - symSigLen) =
      .ok (symPadding mode padCount).length := by
    rw [← hlength,← hsigned,← List.append_assoc]
    refine symChunkPadding_ok ?_ hpad
    rw [List.length_append,hheader.length]
    omega
  have hchunk : signed ++ mac.toList = header ++ (lePutU32 sequenceNumber ++ lePutU32 requestId ++
      (body ++ (symPadding mode padCount ++ mac.toList))) := by
    rw [← hsigned,← hbody]
    simp only [List.append_assoc]
  unfold symChunkOpen
  rw [if_neg (by unfold symHeaderSize symSigLen at *; omega)]
  simp only [hverify,hpadding,bind,Except.bind,pure,Except.pure]
  rw [hchunk,hheader.body,hheader.info,List.take_left' (by omega)]

/-! ## Round trips -/

section RoundTrip

variable {crypto : CryptoAdapter ω} {keys : SymKeys} {messageType body chunk : List UInt8}
  {secureChannelId tokenId sequenceNumber requestId : UInt32} {outCap : Nat}

theorem symChunkUnwrap_framed (hlong : symHeaderSize ≤ chunk.length)
    (hsize : (leGetU32 (chunk.drop 4)).toNat = chunk.length) :
    symChunkUnwrap crypto mode keys chunk =
      match mode with
      | .signAndEncrypt =>
        match symChunkDecrypt crypto keys chunk chunk.length with
        | .error status => (.error status, chunk)
        | .ok chunk' => (symChunkOpen crypto mode keys chunk' chunk.length, chunk')
      | .sign => (symChunkOpen crypto mode keys chunk chunk.length, chunk)
      | _ => (.error Status.badSecurityModeRejected, chunk) := by
  unfold symChunkUnwrap
  rw [if_neg (by omega),hsize]
  exact (if_neg (by omega)).trans rfl

theorem symChunk_sign_roundTrip (htype : messageType.length = 3)
    (hwrap : symChunkWrap crypto .sign keys messageType secureChannelId tokenId sequenceNumber
      requestId body outCap = .ok chunk) (hsmall : chunk.length < 2 ^ 32) :
    (symChunkUnwrap crypto .sign keys chunk).1 =
      .ok (body, ⟨.sign, secureChannelId, tokenId, sequenceNumber, requestId, messageType⟩) := by
  unfold symChunkWrap at hwrap
  dsimp only at hwrap
  generalize htotal : symHeaderSize + (lePutU32 sequenceNumber ++ lePutU32 requestId ++ body).length +
    symSigLen = total at hwrap
  split at hwrap
  · cases hwrap
  obtain ⟨mac,hmac,hwrap⟩ := ok_of_except_bind hwrap
  cases hwrap
  have hheader := symChunkHeader_spec htype total secureChannelId tokenId
  generalize symChunkHeader messageType total secureChannelId tokenId = header
    at hheader hmac hsmall ⊢
  have hlength : (header ++ (lePutU32 sequenceNumber ++ lePutU32 requestId ++ body) ++
      mac.toList).length = total := by
    rw [List.length_append,List.length_append,hheader.length,Vector.length_toList]
    exact htotal
  have hnone : symPadding .sign 0 = [] := rfl
  have hopen : symChunkOpen crypto .sign keys _ total = _ :=
    symChunkOpen_ok hheader (show 0 < 256 by decide) (by rwa [hnone,List.append_nil])
      (by rw [← htotal]; simp [hnone]; omega)
  rw [hnone,List.append_nil] at hopen
  rw [symChunkUnwrap_framed]
  · rw [hlength]
    exact hopen
  · rw [hlength]
    omega
  · rw [hlength,List.append_assoc]
    exact hheader.toNat_size (hlength ▸ hsmall)

theorem symChunk_encrypt_roundTrip (hinverse : SymInverse crypto keys)
    (htype : messageType.length = 3)
    (hwrap : symChunkWrap crypto .signAndEncrypt keys messageType secureChannelId tokenId
      sequenceNumber requestId body outCap = .ok chunk) (hsmall : chunk.length < 2 ^ 32) :
    (symChunkUnwrap crypto .signAndEncrypt keys chunk).1 =
      .ok (body, ⟨.signAndEncrypt, secureChannelId, tokenId, sequenceNumber, requestId,
        messageType⟩) := by
  unfold symChunkWrap at hwrap
  dsimp only at hwrap
  generalize hbase : (lePutU32 sequenceNumber ++ lePutU32 requestId ++ body).length + 1 + symSigLen =
    base at hwrap
  generalize hpad : (symBlock - base % symBlock) % symBlock = padCount at hwrap
  generalize htotal : symHeaderSize + base + padCount = total at hwrap
  split at hwrap
  · cases hwrap
  obtain ⟨mac,hmac,hwrap⟩ := ok_of_except_bind hwrap
  obtain ⟨encrypt,hencrypt,hwrap⟩ := ok_of_except_bind hwrap
  obtain ⟨encrypted,hencrypted,hwrap⟩ := ok_of_except_bind hwrap
  cases hwrap
  have hheader := symChunkHeader_spec htype total secureChannelId tokenId
  generalize symChunkHeader messageType total secureChannelId tokenId = header
    at hheader hmac hsmall ⊢
  have hpadBound : padCount < 16 := by
    rw [← hpad]
    exact Nat.mod_lt _ (by decide)
  have haligned : (base + padCount) % symBlock = 0 := by
    rw [← hpad]
    unfold symBlock
    omega
  have hcipherLength : encrypted.val.length = base + padCount := by
    rw [encrypted.property,← hbase]
    simp only [List.length_append,List.length_replicate,Vector.length_toList,symSigLen]
    omega
  have hlength : (header ++ encrypted.val).length = total := by
    rw [List.length_append,hheader.length]
    omega
  have hdecrypt : symChunkDecrypt crypto keys (header ++ encrypted.val) total =
      .ok (header ++ (lePutU32 sequenceNumber ++ lePutU32 requestId ++ body ++
        symPadding .signAndEncrypt padCount) ++ mac.toList) := by
    obtain ⟨decrypt,hselect,hinv⟩ := hinverse.cbc encrypt hencrypt
    have hplain := hinv _ _ hencrypted
    unfold symChunkDecrypt Buffer.slice
    rw [show total - symHeaderSize = base + padCount by omega,if_neg (by omega),
      List.drop_left' hheader.length,List.take_of_length_le (by omega)]
    simp only [hselect,bind,Except.bind]
    cases hdec : decrypt encrypted.val with
    | error status => cases hdec ▸ hplain
    | ok plain =>
      rw [hdec] at hplain
      have hval : plain.val = lePutU32 sequenceNumber ++ lePutU32 requestId ++ body ++
        List.replicate (padCount + 1) (UInt8.ofNat padCount) ++ mac.toList := Except.ok.inj hplain
      dsimp only
      rw [← hheader.length,← List.append_nil (_ ++ encrypted.val),
        Buffer.overwrite_append_middle plain.property,List.append_nil,hval,← List.append_assoc]
      rfl
  rw [symChunkUnwrap_framed]
  · rw [hlength,hdecrypt]
    refine symChunkOpen_ok hheader (by omega) hmac ?_
    rw [← htotal,← hbase]
    simp only [symPadding,if_true,List.length_append,List.length_replicate,length_lePutU32]
    omega
  · rw [hlength]
    omega
  · rw [hlength]
    exact hheader.toNat_size (hlength ▸ hsmall)

theorem symChunk_aead_roundTrip (hinverse : SymInverse crypto keys) {lastSequenceNumber : UInt32}
    (htype : messageType.length = 3)
    (hwrap : symChunkWrapAead crypto keys messageType secureChannelId tokenId sequenceNumber
      lastSequenceNumber requestId body outCap = .ok chunk) (hsmall : chunk.length < 2 ^ 32) :
    (symChunkUnwrapAead crypto keys chunk lastSequenceNumber).1 =
      .ok (body, ⟨.signAndEncrypt, secureChannelId, tokenId, sequenceNumber, requestId,
        messageType⟩) := by
  unfold symChunkWrapAead at hwrap
  split at hwrap
  · cases hwrap
  next encrypt hencrypt =>
  dsimp only at hwrap
  generalize hplain : lePutU32 sequenceNumber ++ lePutU32 requestId ++ body = plain at hwrap
  generalize htotal : symHeaderSize + plain.length + aeadTagLen = total at hwrap
  split at hwrap
  · cases hwrap
  obtain ⟨⟨encrypted,tag⟩,hencrypted,hwrap⟩ := ok_of_except_bind hwrap
  cases hwrap
  obtain ⟨decrypt,hselect,hinv⟩ := hinverse.aead encrypt hencrypt
  have hdecrypted := hinv _ _ _ _ _ _ hencrypted
  have hheader := symChunkHeader_spec htype total secureChannelId tokenId
  generalize symChunkHeader messageType total secureChannelId tokenId = header
    at hheader hdecrypted hsmall ⊢
  have hplainLength : plain.length = 8 + body.length := by
    rw [← hplain]
    simp only [List.length_append,length_lePutU32]
  have hcipherLength : encrypted.val.length = plain.length := encrypted.property
  have hlength : (header ++ (encrypted.val ++ tag.toList)).length = total := by
    rw [List.length_append,List.length_append,hheader.length,hcipherLength,Vector.length_toList,
      ← htotal]
    rfl
  rw [List.append_assoc] at hsmall ⊢
  have htag : Buffer.slice (header ++ (encrypted.val ++ tag.toList)) (symHeaderSize + plain.length)
      aeadTagLen = tag.toList := by
    unfold Buffer.slice
    rw [← List.append_assoc,List.drop_left' (by rw [List.length_append,hheader.length,hcipherLength]),
      List.take_of_length_le (by simp [aeadTagLen])]
  have hcipher : Buffer.slice (header ++ (encrypted.val ++ tag.toList)) symHeaderSize plain.length =
      encrypted.val := by
    unfold Buffer.slice
    rw [List.drop_left' hheader.length,List.take_left' hcipherLength]
  rw [← hcipher] at hdecrypted
  unfold symChunkUnwrapAead
  rw [hselect]
  dsimp only
  rw [hheader.toNat_size (hlength ▸ hsmall),if_neg (by rw [hlength]; unfold aeadTagLen at *; omega),
    if_neg (by rw [hlength]; omega),hheader.token,
    show total - symHeaderSize - aeadTagLen = plain.length by omega,
    List.take_left' hheader.length,htag]
  revert hdecrypted
  generalize decrypt keys.encryptingKey (aeadBuildIv keys.iv tokenId lastSequenceNumber) header
    tag.toList (Buffer.slice (header ++ (encrypted.val ++ tag.toList)) symHeaderSize plain.length) =
      result
  intro hresult
  cases result with
  | error status => cases hresult
  | ok opened =>
    have hval : opened.val = plain := Except.ok.inj hresult
    have hchunk : Buffer.overwrite (header ++ (encrypted.val ++ tag.toList)) symHeaderSize plain =
        header ++ (lePutU32 sequenceNumber ++ lePutU32 requestId ++ (body ++ tag.toList)) := by
      rw [← hheader.length,← List.append_assoc,Buffer.overwrite_append_middle hcipherLength.symm,
        ← hplain]
      simp only [List.append_assoc]
    dsimp only
    rw [hval,hchunk,hheader.body,hheader.info,List.take_left' (by omega)]

end RoundTrip

/-! ## What is opened -/

/-- The bytes behind the signed part of a chunk are the HMAC of that part, which is the header and
what was decrypted. -/
structure SymAuthentic (crypto : CryptoAdapter ω) (mode : MessageSecurityMode) (keys : SymKeys)
    (chunk opened : List UInt8) : Prop where
  /-- the header is there, and the signature lies within the chunk -/
  sized : symHeaderSize + 8 + symSigLen ≤ (leGetU32 (chunk.drop 4)).toNat ∧
    (leGetU32 (chunk.drop 4)).toNat ≤ chunk.length
  mac : ∃ mac, crypto.hmacSha256 keys.signingKey
      (opened.take ((leGetU32 (chunk.drop 4)).toNat - symSigLen)) = .ok mac ∧
    Buffer.slice opened ((leGetU32 (chunk.drop 4)).toNat - symSigLen) symSigLen = mac.toList
  /-- what was opened is the chunk, decrypted behind its header -/
  plain : mode = .sign ∧ opened = chunk ∨ mode = .signAndEncrypt ∧ ∃ decrypt plain,
    keys.cipher crypto.aes128CbcDecrypt crypto.aes256CbcDecryptCtx crypto.aes256CbcDecrypt =
      .ok decrypt ∧
    decrypt (Buffer.slice chunk symHeaderSize
      ((leGetU32 (chunk.drop 4)).toNat - symHeaderSize)) = .ok plain ∧
    opened = Buffer.overwrite chunk symHeaderSize plain.val

theorem symChunkOpen_mac {chunk : List UInt8} {msgSize : Nat} {result : List UInt8 × SymChunkInfo}
    (h : symChunkOpen crypto mode keys chunk msgSize = .ok result) :
    symHeaderSize + 8 + symSigLen ≤ msgSize ∧
      ∃ mac, crypto.hmacSha256 keys.signingKey (chunk.take (msgSize - symSigLen)) = .ok mac ∧
        Buffer.slice chunk (msgSize - symSigLen) symSigLen = mac.toList := by
  unfold symChunkOpen at h
  split at h
  · cases h
  next hsize =>
  refine ⟨Nat.not_lt.mp hsize,?_⟩
  unfold symChunkVerify at h
  simp only [bind,Except.bind] at h
  cases hmac : crypto.hmacSha256 keys.signingKey (chunk.take (msgSize - symSigLen)) with
  | error status =>
    rw [hmac] at h
    cases h
  | ok mac =>
    refine ⟨mac,rfl,?_⟩
    by_contra hne
    rw [hmac] at h
    dsimp only at h
    rw [if_pos fun heq => hne heq.symm] at h
    cases h

theorem symChunkUnwrap_authentic {chunk : List UInt8} {result : List UInt8 × SymChunkInfo}
    (h : (symChunkUnwrap crypto mode keys chunk).1 = .ok result) :
    SymAuthentic crypto mode keys chunk (symChunkUnwrap crypto mode keys chunk).2 := by
  unfold symChunkUnwrap at h ⊢
  split at h
  · cases h
  next hlong =>
  rw [if_neg hlong]
  dsimp only at h ⊢
  split at h
  · cases h
  next hsize =>
  rw [if_neg hsize]
  cases mode with
  | signAndEncrypt =>
    cases hdecrypt : symChunkDecrypt crypto keys chunk (leGetU32 (chunk.drop 4)).toNat with
    | error status =>
      rw [hdecrypt] at h
      cases h
    | ok opened =>
      rw [hdecrypt] at h
      obtain ⟨hsized,hmac⟩ := symChunkOpen_mac h
      refine ⟨⟨hsized,by omega⟩,hmac,.inr ⟨rfl,?_⟩⟩
      unfold symChunkDecrypt at hdecrypt
      dsimp only at hdecrypt
      split at hdecrypt
      · cases hdecrypt
      obtain ⟨decrypt,hselect,hdecrypt⟩ := ok_of_except_bind hdecrypt
      obtain ⟨plain,hplain,hdecrypt⟩ := ok_of_except_bind hdecrypt
      cases hdecrypt
      exact ⟨decrypt,plain,hselect,hplain,rfl⟩
  | sign =>
    obtain ⟨hsized,hmac⟩ := symChunkOpen_mac h
    exact ⟨⟨hsized,by omega⟩,hmac,.inl ⟨rfl,rfl⟩⟩
  | _ => cases h

/-! ## Both together -/

/-- A chunk of less than 2^32 bytes is opened to what was sealed, by CBC and by AEAD, and every
chunk that is opened carries the HMAC of what lies in front of it. -/
theorem symChunk_roundTrip (crypto : CryptoAdapter ω) (keys : SymKeys)
    (hinverse : SymInverse crypto keys) (messageType : List UInt8) (htype : messageType.length = 3)
    (secureChannelId tokenId sequenceNumber requestId : UInt32) (body : List UInt8) (outCap : Nat) :
    (∀ mode chunk, symChunkWrap crypto mode keys messageType secureChannelId tokenId sequenceNumber
        requestId body outCap = .ok chunk → chunk.length < 2 ^ 32 →
      (symChunkUnwrap crypto mode keys chunk).1 =
        .ok (body, ⟨mode, secureChannelId, tokenId, sequenceNumber, requestId, messageType⟩)) ∧
    (∀ lastSequenceNumber chunk, symChunkWrapAead crypto keys messageType secureChannelId tokenId
        sequenceNumber lastSequenceNumber requestId body outCap = .ok chunk →
      chunk.length < 2 ^ 32 →
      (symChunkUnwrapAead crypto keys chunk lastSequenceNumber).1 =
        .ok (body, ⟨.signAndEncrypt, secureChannelId, tokenId, sequenceNumber, requestId,
          messageType⟩)) ∧
    ∀ mode chunk result, (symChunkUnwrap crypto mode keys chunk).1 = .ok result →
      SymAuthentic crypto mode keys chunk (symChunkUnwrap crypto mode keys chunk).2 := by
  refine ⟨fun mode chunk hwrap hsmall => ?_,
    fun _ chunk hwrap hsmall => symChunk_aead_roundTrip hinverse htype hwrap hsmall,
    fun mode chunk result h => symChunkUnwrap_authentic h⟩
  cases mode with
  | sign => exact symChunk_sign_roundTrip htype hwrap hsmall
  | signAndEncrypt => exact symChunk_encrypt_roundTrip hinverse htype hwrap hsmall
  | _ => cases hwrap

def echoCrypto : CryptoAdapter Unit :=
  { refusingCrypto with
    hmacSha256 := fun _ _ => .ok (Vector.replicate 32 0)
    aes256CbcEncrypt := fun _ _ plain => .ok ⟨plain, rfl⟩
    aes256CbcDecrypt := fun _ _ cipher => .ok ⟨cipher, rfl⟩ }

theorem echoCrypto_inverse : SymInverse echoCrypto (SymKeys.blank .basic256Sha256) := by
  refine ⟨fun encrypt hencrypt => ⟨fun cipher => .ok ⟨cipher,rfl⟩,rfl,?_⟩,fun _ h => (nomatch h)⟩
  intro plain cipher h
  cases hencrypt
  cases h
  rfl

/-- A body that fills its last block, so that the padding takes one of its own. -/
theorem symChunk_roundTrip_block :
    ∃ chunk, symChunkWrap echoCrypto .signAndEncrypt (SymKeys.blank .basic256Sha256)
        [0x4d, 0x53, 0x47] 1 2 3 4 [1, 2, 3, 4, 5, 6, 7, 8] 96 = .ok chunk ∧ chunk.length = 80 ∧
      (symChunkUnwrap echoCrypto .signAndEncrypt (SymKeys.blank .basic256Sha256) chunk).1 =
        .ok ([1, 2, 3, 4, 5, 6, 7, 8], ⟨.signAndEncrypt, 1, 2, 3, 4, [0x4d, 0x53, 0x47]⟩) := by
  refine ⟨_,rfl,rfl,?_⟩
  exact (symChunk_roundTrip echoCrypto (SymKeys.blank .basic256Sha256) echoCrypto_inverse
    [0x4d,0x53,0x47] rfl 1 2 3 4 [1,2,3,4,5,6,7,8] 96).1 .signAndEncrypt _ rfl (by decide)

theorem symChunk_sign_refused {body : List UInt8} {total : Nat}
    (htotal : symHeaderSize + (8 + body.length) + symSigLen = total)
    (hcut : total % 2 ^ 32 < symHeaderSize) :
    ∃ chunk, symChunkWrap echoCrypto .sign (SymKeys.blank .basic256Sha256) [0x4d, 0x53, 0x47]
        1 2 3 4 body total = .ok chunk ∧
      (symChunkUnwrap echoCrypto .sign (SymKeys.blank .basic256Sha256) chunk).1 =
        .error Status.badDecodingError := by
  have hlength : symHeaderSize + (lePutU32 3 ++ lePutU32 4 ++ body).length + symSigLen = total := by
    rw [← htotal,List.length_append]
    rfl
  refine ⟨symChunkHeader [0x4d,0x53,0x47] total 1 2 ++ (lePutU32 3 ++ lePutU32 4 ++ body) ++
    (Vector.replicate 32 0).toList,?_,?_⟩
  · unfold symChunkWrap
    dsimp only
    rw [hlength,if_neg (Nat.lt_irrefl _)]
    rfl
  · have hsize : (leGetU32 ((symChunkHeader [0x4d,0x53,0x47] total 1 2 ++
        (lePutU32 3 ++ lePutU32 4 ++ body) ++ (Vector.replicate 32 0).toList).drop 4)).toNat =
          total % 2 ^ 32 := by
      rw [List.append_assoc,(symChunkHeader_spec rfl _ _ _).size,UInt32.toNat_ofNat']
    unfold symChunkUnwrap
    rw [hsize]
    split
    · rfl
    · rw [if_pos (Or.inr hcut)]

/-- A chunk of 2^32 bytes names the size 0. -/
theorem symChunk_size_wraps :
    ∃ chunk, symChunkWrap echoCrypto .sign (SymKeys.blank .basic256Sha256) [0x4d, 0x53, 0x47]
        1 2 3 4 (List.replicate 4294967240 0) 4294967296 = .ok chunk ∧
      (symChunkUnwrap echoCrypto .sign (SymKeys.blank .basic256Sha256) chunk).1 =
        .error Status.badDecodingError :=
  symChunk_sign_refused (by rw [List.length_replicate]; rfl) (by decide)

end MucOpcua

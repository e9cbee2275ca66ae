import KeyEnclave.Proofs.Kms.Sessions
import KeyEnclave.Proofs.Object.Splitting

/-!
# What a blob is checked for

Before a blob is installed its header is checked for its signature, its payload for its tag and
digest, and the plaintext for being objects of the installed range.

## Main definitions

* `Kms.Vouches` — all that is checked, and the objects that are to be installed.
* `Kms.blobPieces` — the checks in a row.

## Main results

* `Kms.blobPieces_eq_ok` — the checks let pass exactly what they vouch for.
* `Kms.importBlob_ends` — importing a blob is checking it and installing its objects.
-/

namespace KeyEnclave

open KeyEnclave.Action

namespace Kms

variable {C T N : Type}

/-- The length that a header gives for the plaintext. -/
def plainLength (header : Bytes) : Nat :=
  (UInt32.ofNat (Bytes.toNatLE (BlobHeader.field header 8 4))).toNat

/-- The blob with this header is to be installed, as the objects `pieces` that `plain` consists of. -/
structure Vouches (kms : Kms C T N) (header blob : Bytes) (keys : BlobKeys) (plain : Bytes)
    (pieces : List Bytes) : Prop where
  isUp : kms.sessions.isUp = true
  quiet : kms.sessions.openCount = 0
  keys_eq : kms.blobKeys = some keys
  unlatched : kms.latches.isKeyLocked keys.verify = false ∧
    kms.latches.isKeyLocked keys.decrypt = false
  length_header : header.length = 320
  magic : UInt32.ofNat (Bytes.toNatLE (BlobHeader.field header 0 4)) = BlobHeader.magic
  signed : ∃ key point signature, kms.store.get? keys.verify = some key ∧
    key.verifyingKey = .ok point ∧
    Ecdsa.Signature.ofBytes? (BlobHeader.field header 128 64) = some signature ∧
    Ecdsa.verify point (Sha256.hash (BlobHeader.field header 0 128)) signature = true
  length_blob : plainLength header ≤ 2048 ∧ blob.length = plainLength header + 16
  opened : ∃ key secret, kms.store.get? keys.decrypt = some key ∧ key.secretValue = .ok secret ∧
    secret.length = 32 ∧
    ChaCha20Poly1305.decrypt secret (BlobHeader.field header 84 12)
      (blob.take (plainLength header)) (blob.drop (plainLength header)) = some plain
  digest : Sha256.hash plain = BlobHeader.field header 20 32
  flatten_eq : pieces.flatten = plain
  length_le : pieces.length ≤ 16
  isPiece : ∀ piece ∈ pieces, IsPiece kms.layout piece

/-- The objects of a blob, if it passes all checks. -/
def blobPieces (kms : Kms C T N) (header blob : Bytes) : Except ReturnCode (List Bytes) := do
  kms.requireUp
  if kms.sessions.openCount ≠ 0 then throw .operationActive
  let keys ← kms.requireBlobKeys
  let header ← BlobHeader.parse header
  kms.authenticateHeader keys header
  let plain ← kms.openPayload keys header blob
  splitObjects kms.layout blobObjects plain

section Checks

variable {kms : Kms C T N} {keys : BlobKeys} {header blob plain : Bytes} {pieces : List Bytes}

theorem requireBlobKeys_eq_ok : kms.requireBlobKeys = .ok keys ↔ kms.blobKeys = some keys := by
  unfold requireBlobKeys
  split
  · next found hfound => rw [hfound, Except.ok.injEq, Option.some.injEq]
  · next hfound =>
    rw [hfound]
    constructor <;> intro h <;> cases h

theorem blobKey_eq_ok {handle : ObjectHandle} {key : ObjectView} : kms.blobKey handle = .ok key ↔
    kms.latches.isKeyLocked handle = false ∧ kms.store.get? handle = some key := by
  unfold blobKey lookup
  cases kms.latches.isKeyLocked handle with
  | true =>
    constructor
    · intro h
      cases h
    · rintro ⟨h, -⟩
      cases h
  | false =>
    simp only [Bool.false_eq_true, if_false, true_and]
    cases kms.store.get? handle with
    | none => constructor <;> intro h <;> cases h
    | some found => rw [Except.ok.injEq, Option.some.injEq]

theorem parse_eq_ok {parsed : BlobHeader} : BlobHeader.parse header = .ok parsed ↔
    header.length = 320 ∧
      UInt32.ofNat (Bytes.toNatLE (BlobHeader.field header 0 4)) = BlobHeader.magic ∧
      parsed = {
        protocolVersion := UInt16.ofNat (Bytes.toNatLE (BlobHeader.field header 4 2))
        version := UInt16.ofNat (Bytes.toNatLE (BlobHeader.field header 6 2))
        size := UInt32.ofNat (Bytes.toNatLE (BlobHeader.field header 8 4))
        digest := BlobHeader.field header 20 32
        iv := BlobHeader.field header 84 16
        signed := BlobHeader.field header 0 128
        signature := BlobHeader.field header 128 64 } := by
  simp only [BlobHeader.parse, failing_eq_ok]
  constructor
  · rintro ⟨hlength, hmagic, hparsed⟩
    exact ⟨Decidable.of_not_not hlength, Decidable.of_not_not hmagic, (Except.ok.inj hparsed).symm⟩
  · rintro ⟨hlength, hmagic, rfl⟩
    exact ⟨not_not_intro hlength, not_not_intro hmagic, rfl⟩

theorem authenticateHeader_eq_ok {parsed : BlobHeader} {u : Unit} :
    kms.authenticateHeader keys parsed = .ok u ↔ kms.latches.isKeyLocked keys.verify = false ∧
      ∃ key point signature, kms.store.get? keys.verify = some key ∧
        key.verifyingKey = .ok point ∧
        Ecdsa.Signature.ofBytes? parsed.signature = some signature ∧
        Ecdsa.verify point (Sha256.hash parsed.signed) signature = true := by
  simp only [authenticateHeader, bind_eq_ok, blobKey_eq_ok]
  constructor
  · rintro ⟨key, ⟨hlatch, hkey⟩, point, hpoint, h⟩
    split at h
    · cases h
    · next signature hsignature =>
      split at h
      · cases h
      · next hverify =>
        exact ⟨hlatch, key, point, signature, hkey, hpoint, hsignature, Bool.not_not_eq.mp hverify⟩
  · rintro ⟨hlatch, key, point, signature, hkey, hpoint, hsignature, hverify⟩
    refine ⟨key, ⟨hlatch, hkey⟩, point, hpoint, ?_⟩
    simp only [hsignature, hverify]
    rfl

theorem openPayload_eq_ok {parsed : BlobHeader} : kms.openPayload keys parsed blob = .ok plain ↔
    kms.latches.isKeyLocked keys.decrypt = false ∧
      (parsed.size.toNat ≤ 2048 ∧ blob.length = parsed.size.toNat + 16) ∧
      (∃ key secret, kms.store.get? keys.decrypt = some key ∧ key.secretValue = .ok secret ∧
        secret.length = 32 ∧
        ChaCha20Poly1305.decrypt secret (parsed.iv.take 12) (blob.take parsed.size.toNat)
          (blob.drop parsed.size.toNat) = some plain) ∧
      Sha256.hash plain = parsed.digest := by
  simp only [openPayload, bind_eq_ok, failing_eq_ok, blobKey_eq_ok]
  constructor
  · rintro ⟨hlength, key, ⟨hlatch, hkey⟩, secret, hsecret, hwide, h⟩
    rw [not_or, Nat.not_lt, Decidable.not_not] at hlength
    split at h
    · cases h
    · next opened hopened =>
      split at h
      · cases h
      · next hdigest =>
        obtain rfl := Except.ok.inj h
        exact ⟨hlatch, hlength, ⟨key, secret, hkey, hsecret, Decidable.of_not_not hwide, hopened⟩,
          Decidable.of_not_not hdigest⟩
  · rintro ⟨hlatch, hlength, ⟨key, secret, hkey, hsecret, hwide, hopened⟩, hdigest⟩
    refine ⟨?_, key, ⟨hlatch, hkey⟩, secret, hsecret, not_not_intro hwide, ?_⟩
    · rw [not_or, Nat.not_lt, Decidable.not_not]
      exact hlength
    · have hopened' : ChaCha20Poly1305.decrypt secret
          (parsed.iv.take ChaCha20Poly1305.nonceLength) (blob.take parsed.size.toNat)
          (blob.drop parsed.size.toNat) = some plain := hopened
      simp only [hopened', hdigest]
      exact if_neg (not_not_intro rfl)

/-- The checks let pass exactly what they vouch for. -/
theorem blobPieces_eq_ok : kms.blobPieces header blob = .ok pieces ↔
    ∃ keys plain, kms.Vouches header blob keys plain pieces := by
  have hnonce : (BlobHeader.field header 84 16).take 12 = BlobHeader.field header 84 12 := by
    rw [BlobHeader.field, List.take_take]
    rfl
  simp only [blobPieces, bind_eq_ok, failing_eq_ok, requireUp_eq_ok, requireBlobKeys_eq_ok,
    parse_eq_ok, authenticateHeader_eq_ok, openPayload_eq_ok, splitObjects_eq_ok]
  constructor
  · rintro ⟨_, hup, hquiet, keys, hkeys, _, ⟨hlength, hmagic, rfl⟩, _, ⟨hverify, hsigned⟩, plain,
      ⟨hdecrypt, hsize, hopened, hdigest⟩, hflatten, hcount, hpieces⟩
    rw [hnonce] at hopened
    exact ⟨keys, plain, hup, Decidable.of_not_not hquiet, hkeys, ⟨hverify, hdecrypt⟩, hlength,
      hmagic, hsigned, hsize, hopened, hdigest, hflatten, hcount, hpieces⟩
  · rintro ⟨keys, plain, h⟩
    have hopened := h.opened
    rw [← hnonce] at hopened
    exact ⟨(), h.isUp, not_not_intro h.quiet, keys, h.keys_eq, _, ⟨h.length_header, h.magic, rfl⟩, (),
      ⟨h.unlatched.1, h.signed⟩, plain, ⟨h.unlatched.2, h.length_blob, hopened, h.digest⟩,
      h.flatten_eq, h.length_le, h.isPiece⟩

/-- What a blob is vouched for as is determined by its bytes. -/
theorem Vouches.pieces_eq {keys' : BlobKeys} {plain' : Bytes} {pieces' : List Bytes}
    (h : kms.Vouches header blob keys plain pieces)
    (h' : kms.Vouches header blob keys' plain' pieces') : pieces = pieces' := by
  have hpieces := blobPieces_eq_ok.mpr ⟨keys, plain, h⟩
  rw [blobPieces_eq_ok.mpr ⟨keys', plain', h'⟩] at hpieces
  exact (Except.ok.inj hpieces).symm

theorem splitObjects_ne_error_ok {layout : ObjectLayout} {budget : Nat} :
    splitObjects layout budget plain ≠ .error .ok := by
  have hparsed (bytes : Bytes) : (ObjectView.parseFront bytes).mapError
      (fun _ => ReturnCode.dataInvalid) ≠ .error .ok := by
    cases ObjectView.parseFront bytes <;> exact fun h => by cases h
  induction budget generalizing plain with
  | zero =>
    cases plain with
    | nil => exact fun h => by cases h
    | cons first others =>
      exact bind_ne_error (hparsed _) fun front => failing_ne_error (by decide) fun h => by cases h
  | succ budget ih =>
    cases plain with
    | nil => exact fun h => by cases h
    | cons first others =>
      exact bind_ne_error (hparsed _) fun front => failing_ne_error (by decide)
        (bind_ne_error ih fun _ h => by cases h)

theorem blobKey_ne_error_ok {handle : ObjectHandle} : kms.blobKey handle ≠ .error .ok := by
  unfold blobKey
  split <;> exact fun h => by cases h

theorem authenticateHeader_ne_error_ok {parsed : BlobHeader} :
    kms.authenticateHeader keys parsed ≠ .error .ok := by
  refine bind_ne_error blobKey_ne_error_ok fun key => bind_ne_error ?_ fun point => ?_
  · unfold ObjectView.verifyingKey
    split
    · exact fun h => by cases h
    · split <;> exact fun h => by cases h
  · split
    · exact fun h => by cases h
    · split <;> exact fun h => by cases h

theorem openPayload_ne_error_ok {parsed : BlobHeader} :
    kms.openPayload keys parsed blob ≠ .error .ok := by
  unfold openPayload
  refine failing_ne_error ?_ (bind_ne_error blobKey_ne_error_ok fun key =>
    bind_ne_error ObjectView.secretValue_ne_error_ok fun secret => failing_ne_error ?_ ?_)
  · decide
  · decide
  · simp only
    split
    · exact fun h => by cases h
    · refine failing_ne_error ?_ fun h => by cases h
      decide

/-- No check fails with the code of success. -/
theorem blobPieces_ne_error_ok : kms.blobPieces header blob ≠ .error .ok := by
  unfold blobPieces
  refine bind_ne_error ?_ fun _ => failing_ne_error ?_
    (bind_ne_error ?_ fun keys => bind_ne_error ?_ fun parsed =>
      bind_ne_error authenticateHeader_ne_error_ok fun _ =>
        bind_ne_error openPayload_ne_error_ok fun plain => splitObjects_ne_error_ok)
  · unfold requireUp
    split <;> exact fun h => by cases h
  · decide
  · unfold requireBlobKeys
    split <;> exact fun h => by cases h
  · unfold BlobHeader.parse
    refine failing_ne_error ?_ (failing_ne_error ?_ fun h => by cases h)
    · decide
    · decide

variable [NvmStorage N]

/-- Importing a blob is checking it and installing its objects. -/
theorem importBlob_ends {post : Outcome (Kms C T N) KmsEvent ReturnCode ReturnCode → Prop}
    (hrefused : ∀ code, kms.blobPieces header blob = .error code → post ⟨.error code, kms, []⟩)
    (hvouched : ∀ pieces, kms.blobPieces header blob = .ok pieces →
      (onStore (ObjectStore.installAll pieces) >>= fun _ =>
        (pure .ok : Step C T N ReturnCode)).Ends kms post) :
    (importBlob header blob).Ends kms post := by
  refine Ends.bind_get (Ends.bind_checked ⟨hrefused, hvouched⟩ fun _ h => ?_)
  refine Ends.failing_checked h fun h => Ends.bind_checked h fun keys h => ?_
  refine Ends.bind_checked h fun parsed h => Ends.bind_checked h fun _ h => ?_
  refine Ends.bind_checked h fun plain h => ?_
  exact Ends.bind_ofExcept h.1 h.2

end Checks

end Kms

end KeyEnclave

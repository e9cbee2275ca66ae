import KeyEnclave.Proofs.Kms.Probing

/-!
# Encrypting and decrypting

An encryption or decryption is begun, and its result is asked for. Whatever comes of it the session
is idle again and may begin the next one, so a ciphertext can be decrypted where it was made.

## Main definitions

* `Kms.Offers` — the words that a caller uses for functions, none of which is latched.
* `Kms.MayCipher` — an idle session, and a key for ChaCha20-Poly1305.
* `Kms.InCipher` — the session has begun to encrypt or to decrypt.

## Main results

* `Kms.MayCipher.answered` — what a direction leads to, from beginning it to its result.
* `Kms.encrypted_data_is_decrypted` — what is encrypted is decrypted to the data, and what is too
  long is not encrypted.
-/

namespace KeyEnclave

open KeyEnclave.Action

/-- A context is made for a session that has none. -/
theorem SoftwareCrypto.start_of_free {R : Type} {crypto : SoftwareCrypto R} {session : SessionHandle}
    {operation : Operation} (hindex : session.index?.isSome)
    (hfree : crypto.operations.get? session = none) :
    crypto.start session (.ok operation) = (.ok, { crypto with
      operations := crypto.operations.set session (some operation) }) := by
  obtain ⟨i, hi⟩ := Option.isSome_iff_exists.mp hindex
  simp only [start, hi, Option.isNone_some, Bool.false_eq_true, if_false, hfree]

/-- Key and nonce are taken from an object with a value of the length of a key and from a parameter
of the length of a nonce. -/
theorem SoftwareCrypto.cipherContext_eq {mechanism : Mechanism} {key : ObjectView} {secret : Bytes}
    (hkind : mechanism.kind = MechanismKind.chacha20Poly1305)
    (hnonce : mechanism.parameter.length = ChaCha20Poly1305.nonceLength)
    (hvalue : key.attribute? AttributeKind.value = some secret)
    (hsecret : secret.length = ChaCha20Poly1305.keyLength) :
    cipherContext mechanism key = .ok (secret, mechanism.parameter) := by
  simp only [cipherContext, ObjectView.secretValue, hkind, hnonce, hvalue, ne_eq,
    not_true_eq_false, if_false]
  exact if_neg (not_not_intro hsecret)

namespace Kms

namespace Direction

/-- The request for the result of the operation. -/
def retrieval (direction : Direction) (data : Placed Bytes) : Retrieval :=
  match direction with
  | encrypting => .encrypt data
  | decrypting => .decrypt data

/-- Its context. -/
def operation (direction : Direction) (secret nonce : Bytes) : Operation :=
  match direction with
  | encrypting => .encrypt secret nonce
  | decrypting => .decrypt secret nonce

theorem state_retrieval (direction : Direction) (data : Placed Bytes) :
    (direction.retrieval data).state = direction.state := by
  cases direction <;> rfl

/-- The calls of a direction: one to begin it, and one for its result. -/
def calls (direction : Direction) (word : FunctionId → UInt32) (session : SessionHandle)
    (mechanism : PlacedMechanism) (key : ObjectHandle) (data : Placed Bytes) (len : Address)
    (output : Option Buffer) : List Call :=
  let beginning := direction.request session (some mechanism) key
  let asking := (direction.retrieval data).request session len output
  [⟨word beginning.function, beginning⟩, ⟨word asking.function, asking⟩]

end Direction

-- ═══════════════════════════════════════════════════════════════════════════
-- Words
-- ═══════════════════════════════════════════════════════════════════════════

section Words

/-- The functions of encryption and decryption. -/
def cipherFunctions : List FunctionId := [.encryptInit, .encrypt, .decryptInit, .decrypt]

variable {C T N : Type} {kms : Kms C T N} {word : FunctionId → UInt32}
  {functions : List FunctionId}

/-- The words that a caller uses for functions, none of which is latched. -/
def Offers (kms : Kms C T N) (word : FunctionId → UInt32) (functions : List FunctionId) : Prop :=
  ∀ function ∈ functions, FunctionId.withoutOrigin (word function) = function.word ∧
    kms.latches.isFunctionLocked function.word = false

instance : Decidable (kms.Offers word functions) :=
  inferInstanceAs (Decidable (∀ function ∈ functions, _ ∧ _))

theorem Offers.admitted (h : kms.Offers word functions) {request : Request}
    (hmem : request.function ∈ functions) :
    kms.admitted (word request.function) request = .ok () := by
  have haccepts : kms.Accepts ⟨word request.function, request⟩ := ⟨(h _ hmem).1, (h _ hmem).2⟩
  exact haccepts.admitted

theorem Offers.congr (h : kms.Offers word functions) {other : Kms C T N}
    (hlatches : other.latches = kms.latches) : other.Offers word functions := by
  intro function hmem
  rw [hlatches]
  exact h function hmem

end Words

-- ═══════════════════════════════════════════════════════════════════════════
-- One direction
-- ═══════════════════════════════════════════════════════════════════════════

variable {R T N : Type} {kms begun : Kms (SoftwareCrypto R) T N} {session : SessionHandle}
  {key : ObjectHandle} {secret nonce : Bytes} {direction : Direction}

/-- An idle session without a context, and an object that is not latched with a value of the length
of a key. -/
structure MayCipher (kms : Kms (SoftwareCrypto R) T N) (session : SessionHandle)
    (key : ObjectHandle) (secret : Bytes) : Prop where
  idle : kms.IsIdle session
  free : kms.crypto.operations.get? session = none
  object : ∃ object, kms.lookup key = some object ∧
    object.attribute? AttributeKind.value = some secret
  length : secret.length = ChaCha20Poly1305.keyLength

/-- A session has begun a direction, and nothing was done to objects and latches. -/
structure InCipher (kms begun : Kms (SoftwareCrypto R) T N) (session : SessionHandle)
    (direction : Direction) (secret nonce : Bytes) : Prop where
  store_eq : begun.store = kms.store
  latches_eq : begun.latches = kms.latches
  hasNoTokenKey : begun.HasNoTokenKey session
  holds : begun.Holds session direction.state (direction.operation secret nonce)

/-- A key that is found is not latched. -/
theorem isKeyLocked_of_lookup {object : ObjectView} (h : kms.lookup key = some object) :
    kms.latches.isKeyLocked key = false := by
  unfold lookup at h
  split at h
  · cases h
  · next hlatch => exact Bool.eq_false_iff.mpr hlatch

/-- The service in which a session was put into an operation. -/
def operating (kms : Kms (SoftwareCrypto R) T N) (session : SessionHandle) (record : Session)
    (operation : Operation) : Kms (SoftwareCrypto R) T N :=
  { kms with
    crypto := { kms.crypto with
      operations := kms.crypto.operations.set session (some operation) }
    sessions := kms.sessions.put session record }

/-- A session that was put into a direction with a key that is found is in it. -/
theorem inCipher_operating {record : Session} {object : ObjectView}
    (hsession : kms.requireSession session = .ok record) (hlookup : kms.lookup key = some object) :
    kms.InCipher (kms.operating session { record with state := direction.state, key := key }
      (direction.operation secret nonce)) session direction secret nonce := by
  obtain ⟨hup, hget⟩ := requireSession_eq_ok.mp hsession
  have hput : (kms.operating session { record with state := direction.state, key := key }
      (direction.operation secret nonce)).sessions.sessions.get? session =
        some { record with state := direction.state, key := key } :=
    (SessionTable.get?_put hget).trans (if_pos rfl)
  constructor
  case store_eq => rfl
  case latches_eq => rfl
  case hasNoTokenKey =>
    intro found hfound
    obtain rfl := Option.some.inj (hput.symm.trans hfound)
    exact not_isExternal_of_lookup hlookup
  case holds =>
    refine ⟨?_, _, requireState_eq_ok.mpr ⟨requireSession_eq_ok.mpr ⟨hup, hput⟩, rfl⟩,
      fun _ => .inr (isKeyLocked_of_lookup hlookup)⟩
    exact PerSession.get?_set_self _ _ _ (PerSession.index?_isSome_of_get? hget)

variable [RandomSource R]

/-- When a direction is over, the session may begin the next. -/
theorem MayCipher.ended (h : kms.MayCipher session key secret)
    (hbegun : kms.InCipher begun session direction secret nonce) :
    (begun.ended session).MayCipher session key secret := by
  obtain ⟨record, hstate, -⟩ := hbegun.holds.record
  obtain ⟨hup, hget⟩ := requireSession_eq_ok.mp (requireState_eq_ok.mp hstate).1
  constructor
  case idle =>
    refine isIdle_iff.mpr ⟨record.reset, requireSession_eq_ok.mpr ⟨?_, ?_⟩, rfl⟩
    · exact SessionTable.isUp_reset.trans hup
    · show (begun.sessions.reset session).sessions.get? session = _
      rw [SessionTable.get?_reset, if_pos rfl, hget]
      rfl
  case free =>
    show (begun.crypto.operations.set session none).get? session = none
    rw [PerSession.get?_set_none, if_pos rfl]
  case object =>
    obtain ⟨object, hlookup, hvalue⟩ := h.object
    refine ⟨object, ?_, hvalue⟩
    show (if begun.latches.isKeyLocked key then none else begun.store.get? key) = some object
    rw [hbegun.latches_eq, hbegun.store_eq]
    exact hlookup
  case length => exact h.length

variable [ExternalToken T] [NvmStorage N]

omit [ExternalToken T] [NvmStorage N] in
/-- The provider made a context, and the session follows. -/
theorem settle_operating {op : ProviderOp} {operation : Operation} {record : Session}
    {state : SessionState} (hget : kms.sessions.sessions.get? session = some record)
    (hreply : op.code (kms.providerReply op) = .ok)
    (hserved : (CryptoProvider.serve op kms.crypto).2 = { kms.crypto with
      operations := kms.crypto.operations.set session (some operation) }) :
    Ends (do
      Action.ofExcept (op.code (kms.providerReply op)).toExcept
      updateSessions fun table => table.setState session state key
      pure ReturnCode.ok) (kms.afterProvider op) fun rest =>
        (rest.after [kms.providerEvent op]).answer = .ok .ok ∧
          (rest.after [kms.providerEvent op]).state =
            kms.operating session { record with state := state, key := key } operation := by
  refine settle_ends (kms.afterProvider op) hget (fun hcode => absurd hreply hcode)
    fun _ => ⟨rfl, ?_⟩
  rw [operating, ← hserved]
  rfl

omit [ExternalToken T] [NvmStorage N] in
/-- Both directions begin with a context of the secret of the key and the nonce. -/
theorem cryptInit_ends (direction : Direction) {record : Session} {object : ObjectView}
    {mechanism : PlacedMechanism}
    (hsession : kms.requireSession session = .ok record) (hidle : record.state = .idle)
    (hfree : kms.crypto.operations.get? session = none) (hlookup : kms.lookup key = some object)
    (hcontext : SoftwareCrypto.cipherContext mechanism.mechanism object = .ok (secret, nonce)) :
    (cryptInit session (some mechanism) key direction).Ends kms fun outcome =>
      outcome.answer = .ok .ok ∧ outcome.state = kms.operating session
        { record with state := direction.state, key := key }
        (direction.operation secret nonce) := by
  have hget := (requireSession_eq_ok.mp hsession).2
  have hknown : kms.layout.classify key ≠ .unknown := by
    intro hunknown
    have hlocal := isLocal_of_lookup hlookup
    rw [hunknown] at hlocal
    cases hlocal
  have hserve : kms.crypto.start session
      ((SoftwareCrypto.cipherContext mechanism.mechanism object).map fun keyed =>
        direction.operation keyed.1 keyed.2) = (.ok, { kms.crypto with
          operations := kms.crypto.operations.set session
            (some (direction.operation secret nonce)) }) := by
    rw [hcontext]
    exact SoftwareCrypto.start_of_free (PerSession.index?_isSome_of_get? hget) hfree
  refine Ends.bind_ok (show requireMechanism (some mechanism) = .ok mechanism.mechanism from rfl)
    (Ends.bind_get (Ends.bind_ok hsession ?_))
  refine Ends.failing (fun hunknown => absurd hunknown hknown) fun _ => ?_
  refine Ends.bind_ok (requireIdle_eq_ok.mpr hidle) ?_
  simp only [hlookup]
  cases direction with
  | encrypting =>
    exact bind_askProvider (settle_operating hget (congrArg Prod.fst hserve)
      (congrArg Prod.snd hserve))
  | decrypting =>
    exact bind_askProvider (settle_operating hget (congrArg Prod.fst hserve)
      (congrArg Prod.snd hserve))

/-- An idle session with a key begins either direction. -/
theorem MayCipher.begins (h : kms.MayCipher session key secret) {mechanism : PlacedMechanism}
    (hkind : mechanism.kind = MechanismKind.chacha20Poly1305)
    (hnonce : mechanism.parameter.value.length = ChaCha20Poly1305.nonceLength) {word : UInt32}
    (hadmitted : kms.admitted word (direction.request session (some mechanism) key) = .ok ()) :
    kms.answerTo ⟨word, direction.request session (some mechanism) key⟩ = ⟨.ok, .nothing⟩ ∧
      kms.InCipher (kms.next ⟨word, direction.request session (some mechanism) key⟩) session
        direction secret mechanism.parameter.value := by
  obtain ⟨record, hsession, hidle⟩ := isIdle_iff.mp h.idle
  obtain ⟨object, hlookup, hvalue⟩ := h.object
  have hcontext : SoftwareCrypto.cipherContext mechanism.mechanism object =
      .ok (secret, mechanism.parameter.value) :=
    SoftwareCrypto.cipherContext_eq hkind hnonce hvalue h.length
  have hserve : (serve (direction.request session (some mechanism) key)).Ends kms fun outcome =>
      outcome.answer = .ok ⟨.ok, .nothing⟩ ∧ outcome.state = kms.operating session
        { record with state := direction.state, key := key }
        (direction.operation secret mechanism.parameter.value) := by
    have hends := (cryptInit_ends direction hsession hidle h.free hlookup hcontext).mono
      fun outcome houtcome => And.intro
        (congrArg (Except.map fun code => (⟨code, .nothing⟩ : Answer)) houtcome.1) houtcome.2
    cases direction with
    | encrypting => exact codeOnly_ends hends
    | decrypting => exact codeOnly_ends hends
  refine dispatch_ends (fun answer after _ => answer = ⟨.ok, .nothing⟩ ∧
    kms.InCipher after session direction secret mechanism.parameter.value) hadmitted
    (hserve.mono fun outcome houtcome => ?_)
  rw [houtcome.1, houtcome.2]
  exact ⟨rfl, inCipher_operating hsession hlookup⟩

/-- What a direction leads to, from its beginning to a request for its result that ends it. -/
theorem MayCipher.answered (h : kms.MayCipher session key secret) {mechanism : PlacedMechanism}
    (hkind : mechanism.kind = MechanismKind.chacha20Poly1305)
    (hnonce : mechanism.parameter.value.length = ChaCha20Poly1305.nonceLength)
    {word : FunctionId → UInt32} (hwords : kms.Offers word cipherFunctions) (direction : Direction)
    (data : Placed Bytes) (len : Address) (output : Option Buffer) {delivery : Delivery}
    (hstep : (direction.retrieval data).step
      (direction.operation secret mechanism.parameter.value) (output.map Buffer.room) = delivery)
    (hends : terminates delivery.code (output.map Buffer.room).isSome true = true) :
    let calls := direction.calls word session mechanism key data len output
    (kms.history calls).map Served.answer = [⟨.ok, .nothing⟩, delivery.answer] ∧
      (kms.after calls).MayCipher session key secret ∧
      (kms.after calls).Offers word cipherFunctions := by
  intro calls
  have hoffered : (direction.request session (some mechanism) key).function ∈ cipherFunctions ∧
      ((direction.retrieval data).request session len output).function ∈ cipherFunctions := by
    cases direction with
    | encrypting =>
      exact ⟨(by decide : FunctionId.encryptInit ∈ cipherFunctions),
        (by decide : FunctionId.encrypt ∈ cipherFunctions)⟩
    | decrypting =>
      exact ⟨(by decide : FunctionId.decryptInit ∈ cipherFunctions),
        (by decide : FunctionId.decrypt ∈ cipherFunctions)⟩
  obtain ⟨hbegun, hcipher⟩ := h.begins hkind hnonce (hwords.admitted hoffered.1)
  have hwords' := hwords.congr hcipher.latches_eq
  have hholds := hcipher.holds
  rw [← direction.state_retrieval data] at hholds
  obtain ⟨hanswer, hnext⟩ := call_of_holds hcipher.hasNoTokenKey hholds
    (hwords'.admitted hoffered.2)
  rw [hstep] at hanswer hnext
  rw [hends] at hnext
  have hafter : kms.after calls =
      (kms.next ⟨_, direction.request session (some mechanism) key⟩).ended session := hnext
  rw [hafter]
  refine ⟨?_, h.ended hcipher, hwords'.congr rfl⟩
  show [kms.answerTo _, (kms.next _).answerTo _] = _
  rw [hbegun, hanswer]

/-- An idle session of a reachable state with a key may encrypt and decrypt. -/
theorem mayCipher_of_isIdle {config : KmsConfig} {rng : R} {token : T} {nvm : N}
    {start : Kms (SoftwareCrypto R) T N}
    (hnew : Kms.new config (SoftwareCrypto.new rng) token nvm = .ok start) (before : List Call)
    (hidle : (start.after before).IsIdle session)
    (hvalue : ((start.after before).lookup key).bind (ObjectView.attribute? · AttributeKind.value) =
      some secret)
    (hsecret : secret.length = ChaCha20Poly1305.keyLength) :
    (start.after before).MayCipher session key secret := by
  obtain ⟨record, hsession, hstate⟩ := isIdle_iff.mp hidle
  refine ⟨hidle, ?_, Option.bind_eq_some_iff.mp hvalue, hsecret⟩
  have hoperation : record.state.isOperation = false := by rw [hstate]; rfl
  exact Option.map_eq_none_iff.mp (stateOf_eq_none (agrees_after hnew before) hsession hoperation)

/-- Data of at most 2064 bytes is encrypted to 16 bytes more, which the session decrypts to the data
with the same key and nonce; it is idle after each. Longer data is not encrypted: nothing is written,
and the operation is over. So nothing comes of an encryption that is too long to be decrypted. -/
theorem encrypted_data_is_decrypted {config : KmsConfig} {rng : R} {token : T} {nvm : N}
    {start : Kms (SoftwareCrypto R) T N}
    (hnew : Kms.new config (SoftwareCrypto.new rng) token nvm = .ok start) (before : List Call)
    {word : FunctionId → UInt32} (hwords : (start.after before).Offers word cipherFunctions)
    (hidle : (start.after before).IsIdle session)
    (hvalue : ((start.after before).lookup key).bind (ObjectView.attribute? · AttributeKind.value) =
      some secret)
    (hsecret : secret.length = 32) {mechanism : PlacedMechanism}
    (hkind : mechanism.kind = MechanismKind.chacha20Poly1305)
    (hnonce : mechanism.parameter.value.length = 12) :
    let kms := start.after before
    (∀ (data : Placed Bytes) (len : Address) (buffer : Buffer), data.value.length ≤ 2064 →
      data.value.length + 16 ≤ buffer.room →
      let encryption := Direction.encrypting.calls word session mechanism key data len (some buffer)
      ∃ sealed : Bytes, sealed.length = data.value.length + 16 ∧
        (kms.history encryption).map Served.answer =
          [⟨.ok, .nothing⟩, ⟨.ok, .bytes (some (data.value.length + 16)) sealed⟩] ∧
        (kms.after encryption).IsIdle session ∧
        ∀ (given : PlacedMechanism) (received : Placed Bytes) (len : Address) (buffer : Buffer),
          given.mechanism = mechanism.mechanism → received.value = sealed →
          data.value.length ≤ buffer.room →
          let decryption := Direction.decrypting.calls word session given key received len
            (some buffer)
          ((kms.after encryption).history decryption).map Served.answer =
              [⟨.ok, .nothing⟩, ⟨.ok, .bytes (some data.value.length) data.value⟩] ∧
            (kms.after (encryption ++ decryption)).IsIdle session) ∧
    ∀ (data : Placed Bytes) (len : Address) (output : Option Buffer), 2064 < data.value.length →
      let encryption := Direction.encrypting.calls word session mechanism key data len output
      (kms.history encryption).map Served.answer =
          [⟨.ok, .nothing⟩, ⟨.dataLenRange, .bytes (some (data.value.length + 16)) []⟩] ∧
        (kms.after encryption).IsIdle session ∧
        (kms.after encryption).crypto.operations.get? session = none := by
  intro kms
  have hcipher : kms.MayCipher session key secret := mayCipher_of_isIdle hnew before hidle hvalue
    hsecret
  refine ⟨fun data len buffer hlength hroom => ?_, fun data len output hlength => ?_⟩
  · intro encryption
    let sealed := ChaCha20Poly1305.sealed secret mechanism.parameter.value data.value
    have hsealed : sealed.length = data.value.length + 16 := ChaCha20Poly1305.length_sealed _ _ _
    have hencrypted : ((Direction.retrieval .encrypting data).step
        (Direction.operation .encrypting secret mechanism.parameter.value)
        ((some buffer).map Buffer.room)) = ⟨.ok, some sealed.length, sealed⟩ :=
      (congrFun (SoftwareCrypto.sealData_of_le hlength _ _) _).trans
        (deliver_of_fits (hsealed ▸ hroom))
    obtain ⟨hanswers, hready, hoffers⟩ :=
      hcipher.answered hkind hnonce hwords .encrypting data len (some buffer) hencrypted rfl
    rw [hsealed] at hanswers
    refine ⟨sealed, hsealed, hanswers, hready.idle, ?_⟩
    intro given received len buffer hgiven hreceived hroom decryption
    have hnonces : given.parameter.value = mechanism.parameter.value :=
      congrArg Mechanism.parameter hgiven
    have hdecrypted : ((Direction.retrieval .decrypting received).step
        (Direction.operation .decrypting secret given.parameter.value)
        ((some buffer).map Buffer.room)) = ⟨.ok, some data.value.length, data.value⟩ := by
      show SoftwareCrypto.openSealed secret given.parameter.value received.value _ = _
      rw [hnonces, hreceived, SoftwareCrypto.openSealed_sealed hlength]
      exact deliver_of_fits hroom
    obtain ⟨hanswers, hready, -⟩ :=
      hready.answered ((congrArg Mechanism.kind hgiven).trans hkind) (hnonces ▸ hnonce) hoffers
        .decrypting received len (some buffer) hdecrypted rfl
    rw [after_append]
    exact ⟨hanswers, hready.idle⟩
  · intro encryption
    have hrefused : ((Direction.retrieval .encrypting data).step
        (Direction.operation .encrypting secret mechanism.parameter.value)
        (output.map Buffer.room)) = ⟨.dataLenRange, some (data.value.length + 16), []⟩ :=
      SoftwareCrypto.sealData_of_lt hlength _ _ _
    obtain ⟨hanswers, hready, -⟩ :=
      hcipher.answered hkind hnonce hwords .encrypting data len output hrefused rfl
    exact ⟨hanswers, hready.idle, hready.free⟩

/-- Three bytes are encrypted to 19 and decrypted again, and 2065 bytes are not encrypted. -/
theorem short_data_is_decrypted :
    let secret : Bytes := (List.range 32).map UInt8.ofNat
    let kms := (plain .standard (SoftwareCrypto.new (default : XorShift)) NoExternalToken.mk
      (default : SimulatedNvm)).after
        [⟨FunctionId.initialise.word, .initialise⟩,
          ⟨FunctionId.openSession.word, .openSession 0 SessionFlags.serialSession none default⟩,
          ⟨FunctionId.createObject.word, .createObject 1 (templateOf
            [(AttributeKind.objectClass, Bytes.ofWord ObjectClass.secretKey),
              (AttributeKind.keyType, Bytes.ofWord KeyKind.genericSecret),
              (AttributeKind.value, secret)]) default⟩]
    let mechanism : PlacedMechanism :=
      ⟨MechanismKind.chacha20Poly1305, ⟨default, List.replicate 12 7⟩⟩
    let encryption (data : Bytes) (room : Nat) := Direction.encrypting.calls FunctionId.word 1
      mechanism 50 ⟨default, data⟩ default (some ⟨default, room⟩)
    (∃ sealed : Bytes, sealed.length = 19 ∧
      (kms.history (encryption [1, 2, 3] 19)).map Served.answer =
        [⟨.ok, .nothing⟩, ⟨.ok, .bytes (some 19) sealed⟩] ∧
      let decryption := Direction.decrypting.calls FunctionId.word 1 mechanism 50 ⟨default, sealed⟩
        default (some ⟨default, 3⟩)
      ((kms.after (encryption [1, 2, 3] 19)).history decryption).map Served.answer =
        [⟨.ok, .nothing⟩, ⟨.ok, .bytes (some 3) [1, 2, 3]⟩]) ∧
    (kms.history (encryption (List.replicate 2065 0) 4000)).map Served.answer =
      [⟨.ok, .nothing⟩, ⟨.dataLenRange, .bytes (some 2081) []⟩] := by
  intro secret kms mechanism encryption
  obtain ⟨hshort, hlong⟩ := encrypted_data_is_decrypted (new_plain (by decide) _ _ _) _
    (by decide +kernel : kms.Offers FunctionId.word cipherFunctions)
    (by decide +kernel : kms.IsIdle 1)
    (by decide +kernel : (kms.lookup 50).bind (ObjectView.attribute? · AttributeKind.value) =
      some secret)
    (by decide) (show mechanism.kind = _ from rfl) (by decide)
  obtain ⟨sealed, hlength, hsealed, -, hopened⟩ :=
    hshort ⟨default, [1, 2, 3]⟩ default ⟨default, 19⟩ (by decide) (by decide)
  refine ⟨⟨sealed, hlength, hsealed, ?_⟩, ?_⟩
  · exact (hopened mechanism ⟨default, sealed⟩ default ⟨default, 3⟩ rfl rfl (by decide)).1
  · have hlength : (List.replicate 2065 (0 : UInt8)).length = 2065 := List.length_replicate
    have hrefused := (hlong ⟨default, List.replicate 2065 0⟩ default (some ⟨default, 4000⟩)
      (by rw [hlength]; decide)).1
    rw [hlength] at hrefused
    exact hrefused

end Kms

end KeyEnclave

import KeyEnclave.Proofs.Kms.NewObjects

/-!
# The length of derived keys

A template asks for the length of the key that is derived. Key material that is expanded has that
length. A secret that two key holders share has 32 bytes: of these as many are stored as were asked
for, and when more were asked for the key is stored all the same, beside the length that it does not
have.

## Main definitions

* `ObjectView.IsDerived` — the length of an object's value, given the mechanism and the template.

## Main results

* `SoftwareCrypto.length_of_deriveKey` — how long the material is that a mechanism derives.
* `Kms.derived_key_has_asked_length` — how long a derived key is that was stored.
-/

namespace KeyEnclave

-- ═══════════════════════════════════════════════════════════════════════════
-- Key material
-- ═══════════════════════════════════════════════════════════════════════════

theorem Ecdsa.length_of_sharedSecret {scalar : P256.Scalar} {peer : P256.Point} {shared : Bytes}
    (h : sharedSecret scalar peer = some shared) : shared.length = sharedLength := by
  obtain ⟨point, -, rfl⟩ := Option.map_eq_some_iff.mp h
  exact Bytes.length_ofNatBE ..

namespace SoftwareCrypto

open KeyEnclave.Action

/-- Material that is expanded has the length that was asked for, and a shared secret is cut to it. -/
theorem length_of_deriveKey {mechanism : Mechanism} {base : ObjectView} {length : Nat}
    {material : Bytes} (h : deriveKey mechanism base length = .ok material) :
    mechanism.kind = MechanismKind.hkdfDerive ∧ material.length = length ∨
      mechanism.kind = MechanismKind.ecdh1Derive ∧
        material.length = min length Ecdsa.sharedLength := by
  unfold deriveKey at h
  split at h
  · next hkind =>
    obtain ⟨secret, -, h⟩ := bind_eq_ok.mp h
    split at h
    · next output hexpanded =>
      obtain rfl := Except.ok.inj h
      exact .inl ⟨hkind, length_of_hkdfSha256 hexpanded⟩
    · cases h
  · split at h
    · next hkind =>
      obtain ⟨scalar, -, h⟩ := bind_eq_ok.mp h
      split at h
      · cases h
      · split at h
        · next shared hshared =>
          obtain rfl := Except.ok.inj h
          rw [List.length_take, Ecdsa.length_of_sharedSecret hshared]
          exact .inr ⟨hkind, rfl⟩
        · cases h
    · cases h

end SoftwareCrypto

-- ═══════════════════════════════════════════════════════════════════════════
-- Derived keys
-- ═══════════════════════════════════════════════════════════════════════════

namespace ObjectView

/-- An object is a key that was derived with a mechanism from a template that asks for a length. -/
structure IsDerived (view : ObjectView) (kind : MechanismKind) (template : Template)
    (length : Nat) : Prop where
  asked : Kms.askedLength? template = some length
  bounds : 1 ≤ length ∧ length ≤ 64
  derives : kind = MechanismKind.hkdfDerive ∨ kind = MechanismKind.ecdh1Derive
  /-- The value has that length, unless it is that of a shared secret and this is shorter. -/
  value : ∃ value, view.attribute? AttributeKind.value = some value ∧
    if kind = MechanismKind.ecdh1Derive ∧ 32 < length then value.length = 32
    else value.length = length
  /-- An attribute for the length says which length was asked for. -/
  stated : ∀ data, view.attribute? AttributeKind.valueLen = some data →
    (Bytes.asWord? data).map UInt32.toNat = some length

end ObjectView

namespace Kms

open KeyEnclave.Action

variable {R T N : Type}

/-- An object that is made of derived material is a key that was derived. -/
theorem isDerived_of_material {given : Mechanism} {base view : ObjectView} {template : Template}
    {length : Nat} {material : Bytes} (hlength : derivedLength template = .ok length)
    (hmaterial : SoftwareCrypto.deriveKey given base length = .ok material)
    (hattributes : view.attributes = Template.firsts (keyParts ⟨AttributeKind.value, material⟩
      template ObjectClass.secretKey KeyKind.genericSecret).flatten) :
    view.IsDerived given.kind template length := by
  obtain ⟨hasked, hbounds⟩ := derivedLength_eq_ok.mp hlength
  have hlengths := SoftwareCrypto.length_of_deriveKey hmaterial
  refine ⟨hasked, hbounds, hlengths.imp And.left And.left,
    ⟨material, attribute?_keyParts hattributes, ?_⟩, fun data hdata => ?_⟩
  · have hshared : Ecdsa.sharedLength = 32 := rfl
    rcases hlengths with ⟨hkind, hexpanded⟩ | ⟨hkind, hcut⟩
    · rw [if_neg]
      · exact hexpanded
      · rintro ⟨hecdh, -⟩
        cases hkind.symm.trans hecdh
    · split
      · omega
      · next hfits =>
        have hle : length ≤ 32 := Nat.not_lt.mp fun hlong => hfits ⟨hkind, hlong⟩
        omega
  · have hkept : view.attribute? AttributeKind.valueLen = template.find? AttributeKind.valueLen :=
      attribute?_keyParts_other hattributes (by decide) (by decide) (by decide)
    rw [hkept] at hdata
    rw [← hasked, askedLength?, hdata]

variable [RandomSource R] [ExternalToken T] [NvmStorage N]

/-- In every run, a key that the enclave derives is stored with a value of the length that its
template asks for, whatever else the template says, unless more than 32 bytes were asked of a shared
secret: then it has 32 bytes. -/
theorem derived_key_has_asked_length {config : KmsConfig} {crypto : SoftwareCrypto R} {token : T}
    {nvm : N} {start : Kms (SoftwareCrypto R) T N}
    (hnew : Kms.new config crypto token nvm = .ok start) (calls : List Call) {call : Call}
    {session : SessionHandle} {mechanism : Option PlacedMechanism} {baseKey key : ObjectHandle}
    {template : PlacedTemplate} {address : Address}
    (hrequest : call.request = .deriveKey session mechanism baseKey template address)
    (hplace : ((start.after calls).layout.classify baseKey).isExternal = false)
    (hanswer : (start.after calls).answerTo call = ⟨.ok, .key (some key)⟩) :
    ∃ given view length, requireMechanism mechanism = .ok given ∧
      ((start.after calls).next call).store.get? key = some view ∧
      view.IsDerived given.kind template.template length := by
  have hchanges : (start.after calls).ChangesOwn call.request := hrequest ▸ .derived hplace
  have hhandles : ((start.after calls).answerTo call).newHandles = [key] := by
    rw [hanswer]
    rfl
  rcases givesObjects_of_changes (isSound_after hnew calls).store (new_eq_ok hnew).1 hchanges with
    ⟨hnone, -⟩ | ⟨made, hmakes, hall⟩
  · rw [hhandles] at hnone
    cases hnone
  rw [hrequest] at hmakes
  rw [hhandles] at hall
  cases hmakes with
  | @derived _ _ given _ _ _ base length material hgiven hbase hlength hmaterial =>
    cases hall with
    | cons hobject =>
      obtain ⟨view, hget, hattributes⟩ := hobject
      exact ⟨given, view, length, hgiven, hget,
        isDerived_of_material hlength hmaterial hattributes⟩

/-- A run that creates a key of 32 bytes, from which others can be derived. -/
def derivingRun : List Call :=
  [⟨FunctionId.initialise.word, .initialise⟩,
    ⟨FunctionId.openSession.word, .openSession 1 SessionFlags.serialSession none default⟩,
    ⟨FunctionId.createObject.word, .createObject 1 (templateOf
      [(AttributeKind.objectClass, Bytes.ofWord ObjectClass.privateKey),
        (AttributeKind.keyType, Bytes.ofWord KeyKind.ec),
        (AttributeKind.value, List.replicate 31 0 ++ [1])]) default⟩]

/-- A call to derive a key of some length from the key of that run. -/
def askDerived (kind : MechanismKind) (parameter : Bytes) (length : UInt32) : Call :=
  ⟨FunctionId.deriveKey.word, .deriveKey 1 (some ⟨kind, ⟨default, parameter⟩⟩) 50
    (templateOf [(AttributeKind.valueLen, Bytes.ofWord length), (AttributeKind.value, [7])])
    default⟩

/-- Material that is expanded has the 48 bytes that were asked for. -/
theorem expanded_key_has_48_bytes :
    let kms := (plain .standard (SoftwareCrypto.new (default : XorShift)) NoExternalToken.mk
      NoNvm.mk).after derivingRun
    let derive := askDerived MechanismKind.hkdfDerive [9] 48
    kms.answerTo derive = ⟨.ok, .key (some 51)⟩ ∧
      ∃ view value, (kms.next derive).store.get? 51 = some view ∧
        view.attribute? AttributeKind.value = some value ∧ value.length = 48 := by
  intro kms derive
  have hvalid : ObjectLayout.standard.validate = .ok () := by decide
  have hanswer : kms.answerTo derive = ⟨.ok, .key (some 51)⟩ := by decide +kernel
  obtain ⟨given, view, length, hgiven, hget, hderived⟩ := derived_key_has_asked_length
    (new_plain hvalid (SoftwareCrypto.new (default : XorShift)) NoExternalToken.mk NoNvm.mk)
    derivingRun rfl (by decide +kernel) hanswer
  obtain rfl := Except.ok.inj hgiven
  obtain rfl : 48 = length := Option.some.inj hderived.asked
  obtain ⟨value, hvalue, hlength⟩ := hderived.value
  exact ⟨hanswer, view, value, hget, hvalue, hlength⟩

/-- Of a shared secret 64 bytes were asked: the key that is stored has 32, and says that it has
64. -/
theorem shared_secret_is_stored_short :
    let kms := (plain .standard (SoftwareCrypto.new (default : XorShift)) NoExternalToken.mk
      NoNvm.mk).after derivingRun
    let derive := askDerived MechanismKind.ecdh1Derive P256.Point.generator.toSec1 64
    kms.answerTo derive = ⟨.ok, .key (some 51)⟩ ∧
      ((kms.next derive).store.get? 51).map (fun view =>
        ((view.attribute? AttributeKind.value).map List.length,
          view.word? AttributeKind.valueLen)) = some (some 32, some 64) := by
  decide +kernel

end Kms

end KeyEnclave

import KeyEnclave.Proofs.Kms.Blob
import KeyEnclave.Simulation.Storage

/-!
# Only signed blobs are installed

What a request to import a blob leaves behind, in every state that the service can be in: nothing at
all unless the blob is vouched for, and then its objects, all of them or none.

## Main definitions

* `Kms.HasEmbeddedKeys` — the keys that blobs are checked with are the firmware's.
* `ObjectStore.InstallEffect` — what installing the objects of a blob does to the store.
* `Kms.Installs`, `Kms.TakesBack` — the objects are installed, or the records written so far undone.
* `Kms.Imports` — what a request to import leaves behind.

## Main results

* `Kms.hasEmbeddedKeys_after` — no run exchanges the keys.
* `ObjectStore.installAll_effect` — an installation of pieces is refused for a long one only.
* `Kms.import_installs_what_was_signed` — what a request to import leaves behind after any run.
-/

namespace KeyEnclave

open KeyEnclave.Action

-- ═══════════════════════════════════════════════════════════════════════════
-- The keys for blobs
-- ═══════════════════════════════════════════════════════════════════════════

namespace Kms

section Keys

variable {C T N : Type} {config : KmsConfig} {keys : BlobKeys} {handle : ObjectHandle}

/-- The keys for blobs are those of the configuration, and objects of the firmware. -/
structure HasEmbeddedKeys (config : KmsConfig) (kms : Kms C T N) : Prop where
  blobKeys_eq : kms.blobKeys = config.blobKeys
  embedded : ∀ keys, kms.blobKeys = some keys → ∀ handle ∈ [keys.verify, keys.decrypt],
    config.layout.classify handle = .embedded ∧
      ∃ blob ∈ config.embedded, ∃ key, ObjectView.parse? blob = some key ∧ key.handle = handle ∧
        kms.store.get? handle = some key

theorem isEmbeddedKey_of_new {crypto : C} {token : T} {nvm : N} {start : Kms C T N}
    (hnew : Kms.new config crypto token nvm = .ok start) (hkeys : config.blobKeys = some keys)
    (hhandle : handle ∈ [keys.verify, keys.decrypt]) :
    isEmbeddedKey (ObjectStore.new config.layout config.embedded nvm) handle = true := by
  unfold new at hnew
  obtain ⟨-, -, hnew⟩ := bind_eq_ok.mp hnew
  obtain ⟨-, hnew⟩ := failing_eq_ok.mp hnew
  rw [hkeys] at hnew
  obtain ⟨hboth, -⟩ := failing_eq_ok.mp hnew
  rw [Bool.not_not_eq, Bool.and_eq_true] at hboth
  rcases List.mem_pair.mp hhandle with rfl | rfl
  · exact hboth.1
  · exact hboth.2

theorem get?_embedded {store : ObjectStore N} (hclass : store.layout.classify handle = .embedded) :
    store.get? handle = store.embeddedViews.find? fun view => view.handle == handle := by
  rw [ObjectStore.get?, hclass]

/-- What is found in the embedded range is an object of the firmware. -/
theorem exists_embedded {store : ObjectStore N} {key : ObjectView}
    (hclass : store.layout.classify handle = .embedded) (hget : store.get? handle = some key) :
    ∃ blob ∈ store.embedded, ObjectView.parse? blob = some key ∧ key.handle = handle := by
  rw [get?_embedded hclass] at hget
  have hhandle : (key.handle == handle) = true :=
    List.find?_some (p := fun view : ObjectView => view.handle == handle) hget
  obtain ⟨blob, hblob, hparse⟩ := List.mem_filterMap.mp (List.mem_of_find?_eq_some hget)
  exact ⟨blob, hblob, hparse, beq_iff_eq.mp hhandle⟩

variable [CryptoProvider C] [ExternalToken T] [NvmStorage N]

theorem Effect.blobKeys_eq {kms after : Kms C T N} {request : Request} {events : List KmsEvent}
    (h : kms.Effect request after events) : after.blobKeys = kms.blobKeys := by
  cases h with
  | raised hup isTold | cameUp hdown isTold | stayedDown hdown isTold | lowered hnesting isTold
  | wentDown hnesting isTold | closed hsession isTold =>
    exact told_blobKeys kms isTold _
  | stepped => rw [concluded_blobKeys]; rfl
  | steppedOnToken => rw [concluded_blobKeys, told_blobKeys]
  | _ => rfl

/-- No run exchanges the keys for blobs. -/
theorem hasEmbeddedKeys_after {crypto : C} {token : T} {nvm : N} {start : Kms C T N}
    (hnew : Kms.new config crypto token nvm = .ok start) (calls : List Call) :
    (start.after calls).HasEmbeddedKeys config := by
  have hsound := (isSound_after hnew calls).store
  have hstart := (new_eq_ok hnew).2
  have hkeys : (start.after calls).blobKeys = config.blobKeys :=
    after_of_effect (fun _ _ _ _ heffect h => heffect.blobKeys_eq.trans h) (by rw [hstart]) calls
  refine ⟨hkeys, fun keys hsome handle hhandle => ?_⟩
  have hembedded := isEmbeddedKey_of_new hnew (hkeys.symm.trans hsome) hhandle
  rw [isEmbeddedKey, Bool.and_eq_true, beq_iff_eq, Option.isSome_iff_exists] at hembedded
  obtain ⟨hclass, key, hkey⟩ := hembedded
  have hget : (start.after calls).store.get? handle = some key := by
    rw [get?_embedded hclass] at hkey
    rw [get?_embedded (by rwa [hsound.layout_eq]), ObjectStore.embeddedViews, hsound.embedded_eq]
    exact hkey
  obtain ⟨blob, hblob, hparse, hhandle⟩ := exists_embedded hclass hkey
  exact ⟨hclass, blob, hblob, key, hparse, hhandle, hget⟩

end Keys

end Kms

-- ═══════════════════════════════════════════════════════════════════════════
-- Installing the objects of a blob
-- ═══════════════════════════════════════════════════════════════════════════

namespace ObjectStore

section Install

variable {N : Type} {layout : ObjectLayout} {pieces : List Bytes}

theorem blob_ofBlobs (h : ∀ piece ∈ pieces, IsPiece layout piece) :
    (StoredObject.ofBlobs pieces).map StoredObject.blob = pieces := by
  induction pieces with
  | nil => rfl
  | cons piece pieces ih =>
    rw [List.forall_mem_cons] at h
    obtain ⟨⟨view, hparse, -⟩, hpieces⟩ := h
    rw [StoredObject.ofBlobs, List.filterMap_cons, hparse]
    exact congrArg (piece :: ·) (ih hpieces)

theorem classify_ofBlobs (h : ∀ piece ∈ pieces, IsPiece layout piece) {object : StoredObject}
    (hobject : object ∈ StoredObject.ofBlobs pieces) :
    layout.classify object.handle = .nvmStatic := by
  obtain ⟨piece, hpiece, hsome⟩ := List.mem_filterMap.mp hobject
  obtain ⟨view, hparse, hclass⟩ := h piece hpiece
  rw [hparse] at hsome
  obtain rfl := Option.some.inj hsome
  exact hclass

/-- A piece that is not too long can be installed. -/
theorem isInstallable_of_isPiece {piece : Bytes} (h : IsPiece layout piece)
    (hlength : piece.length ≤ Limits.objectLength) : IsInstallable layout piece := by
  obtain ⟨view, hparse, hclass⟩ := h
  exact ⟨view, hparse, hclass, hlength⟩

variable [NvmStorage N]

/-- The operations on storage that install the objects of a blob. -/
def installOps (pieces : List Bytes) : List NvmOp := (StoredObject.ofBlobs pieces).map writeOf

/-- What installing the objects of a blob does to the store. -/
inductive InstallEffect (store : ObjectStore N) (pieces : List Bytes) :
    Outcome (ObjectStore N) NvmExchange StoreError Unit → Prop
  /-- An object is too long. -/
  | refused (error : StoreError) (hlong : ∃ piece ∈ pieces, Limits.objectLength < piece.length) :
      InstallEffect store pieces ⟨.error error, store, []⟩
  /-- Storage fails to write an object; the writes before it are taken back. -/
  | failed {done : List StoredObject} {object : StoredObject} {rest : List StoredObject}
      (hsplit : StoredObject.ofBlobs pieces = done ++ object :: rest)
      (hdone : ∀ event ∈ store.eventsOf (done.map writeOf), event.isSuccess = true)
      (hfailed : ((store.afterAll (done.map writeOf)).nvmEvent (writeOf object)).isSuccess = false) :
      InstallEffect store pieces ⟨.error .writeFailed,
        store.afterAll (failedOps store.cached done object []),
        store.eventsOf (failedOps store.cached done object [])⟩
  /-- Every object is written and cached. -/
  | installed
      (hall : ∀ event ∈ store.eventsOf (installOps pieces), event.isSuccess = true) :
      InstallEffect store pieces ⟨.ok (), { store.afterAll (installOps pieces) with
        cached := StoredObject.cacheAll store.cached (StoredObject.ofBlobs pieces) },
        store.eventsOf (installOps pieces)⟩

/-- The cache has room for whatever objects a blob has, so only a long one is refused. -/
theorem installAll_effect {embedded : List Bytes} {store : ObjectStore N}
    (hvalid : layout.validate = .ok ()) (hsound : store.IsSound layout embedded)
    (hpieces : ∀ piece ∈ pieces, IsPiece layout piece) :
    store.InstallEffect pieces ((installAll pieces).run store) := by
  show Ends (installAll pieces) store (store.InstallEffect pieces)
  have hroom : (StoredObject.cacheAll store.cached (StoredObject.ofBlobs pieces)).length ≤
      Limits.cachedObjects :=
    hsound.length_cacheAll_le hvalid fun o ho => .inl (classify_ofBlobs hpieces ho)
  refine installAll_ends hsound.cached.sound (fun error hrefused => .refused error ?_)
    (fun done object rest _ _ hsplit hdone hfailed => .failed hsplit hdone hfailed)
    fun _ _ hall => .installed hall
  -- there is room, so what was refused can only be a length
  by_contra hlong
  refine absurd (hrefused fun piece hpiece => ?_) (Nat.not_lt.mpr hroom)
  rw [hsound.layout_eq]
  refine isInstallable_of_isPiece (hpieces piece hpiece) (Nat.not_lt.mp fun h => hlong ?_)
  exact ⟨piece, hpiece, h⟩

end Install

end ObjectStore

-- ═══════════════════════════════════════════════════════════════════════════
-- Importing a blob
-- ═══════════════════════════════════════════════════════════════════════════

namespace Kms

open ObjectStore

variable {C T N : Type}

/-- The objects `pieces` are installed: every handle has the last of them with that handle, or else
what it had. -/
structure Installs (kms after : Kms C T N) (pieces : List Bytes) (events : List KmsEvent) :
    Prop where
  blobs : (StoredObject.ofBlobs pieces).map StoredObject.blob = pieces
  found : ∀ handle, StoredObject.find? after.store.cached handle =
    (StoredObject.last? (StoredObject.ofBlobs pieces) handle).or
      (StoredObject.find? kms.store.cached handle)
  distinct : (StoredObject.handles after.store.cached).Nodup
  others : ∀ handle, kms.layout.classify handle ≠ .nvmStatic →
    after.store.get? handle = kms.store.get? handle
  written : ∃ written : List NvmExchange, events = written.map .nvm ∧
    written.map Sigma.fst = installOps pieces ∧ ∀ event ∈ written, event.isSuccess = true

/-- The records of some of the objects `pieces` are written before a write fails, and are then taken
back one by one. -/
def TakesBack (kms : Kms C T N) (pieces : List Bytes) (events : List KmsEvent) : Prop :=
  ∃ (done : List StoredObject) (object : StoredObject) (rest : List StoredObject)
    (written : List NvmExchange) (failed : NvmExchange) (undone : List NvmExchange),
    StoredObject.ofBlobs pieces = done ++ object :: rest ∧
    events = (written ++ failed :: undone).map .nvm ∧
    written.map Sigma.fst = done.map writeOf ∧ (∀ event ∈ written, event.isSuccess = true) ∧
    failed.fst = writeOf object ∧ failed.isSuccess = false ∧
    undone.map Sigma.fst = done.map (undoOf kms.store.cached)

/-- What a request to import a blob leaves behind. -/
structure Imports (kms : Kms C T N) (header blob : Bytes) (code : ReturnCode) (after : Kms C T N)
    (events : List KmsEvent) : Prop where
  /-- Sessions, latches and all objects in RAM but the cached ones are as they were. -/
  kept : after = { kms with
    store := { kms.store with nvm := after.store.nvm, cached := after.store.cached } }
  /-- Nothing happens for a blob that is not vouched for. -/
  vouched : after ≠ kms ∨ events ≠ [] ∨ code = .ok →
    ∃ keys plain pieces, kms.Vouches header blob keys plain pieces
  installed : code = .ok → ∃ keys plain pieces, kms.Vouches header blob keys plain pieces ∧
    kms.Installs after pieces events
  /-- An error leaves the cache as it was, and storage either unasked or with what was written taken
  back. -/
  failed : code ≠ .ok → after.store.cached = kms.store.cached ∧
    (after = kms ∧ events = [] ∨ ∃ keys plain pieces,
      kms.Vouches header blob keys plain pieces ∧ kms.TakesBack pieces events)

/-- The code that reports an installation. -/
def installCode : Except StoreError Unit → ReturnCode
  | .ok _ => .ok
  | .error error => error.code

section Import

variable {kms after : Kms C T N} {header blob : Bytes} {pieces : List Bytes} {code : ReturnCode}
  {events : List KmsEvent}

theorem imports_of_refused (hcode : code ≠ .ok) : kms.Imports header blob code kms [] where
  kept := rfl
  vouched h := by
    rcases h with h | h | h
    · exact absurd rfl h
    · exact absurd rfl h
    · exact absurd h hcode
  installed h := absurd h hcode
  failed _ := ⟨rfl, .inl ⟨rfl, rfl⟩⟩

variable [NvmStorage N]

/-- What importing a blob does, once the request is admitted. -/
inductive ImportEffect (kms : Kms C T N) (header blob : Bytes) :
    ReturnCode → Kms C T N → List KmsEvent → Prop
  /-- A check fails. -/
  | refused {code : ReturnCode} (hcode : code ≠ .ok)
      (hnot : ∀ keys plain pieces, ¬kms.Vouches header blob keys plain pieces) :
      ImportEffect kms header blob code kms []
  /-- The objects of the blob are installed, or none of them. -/
  | checked {keys : BlobKeys} {plain : Bytes} {pieces : List Bytes}
      {outcome : Outcome (ObjectStore N) NvmExchange StoreError Unit}
      (hvouches : kms.Vouches header blob keys plain pieces)
      (heffect : kms.store.InstallEffect pieces outcome) :
      ImportEffect kms header blob (installCode outcome.answer)
        { kms with store := outcome.state } (outcome.journal.map .nvm)

theorem takesBack_failedOps {done : List StoredObject} {object : StoredObject}
    {rest : List StoredObject} (hsplit : StoredObject.ofBlobs pieces = done ++ object :: rest)
    (hdone : ∀ event ∈ kms.store.eventsOf (done.map writeOf), event.isSuccess = true)
    (hfailed : ((kms.store.afterAll (done.map writeOf)).nvmEvent (writeOf object)).isSuccess =
      false) :
    kms.TakesBack pieces
      ((kms.store.eventsOf (failedOps kms.store.cached done object [])).map .nvm) := by
  rw [eventsOf_failedOps]
  exact ⟨done, object, rest, _, _, _, hsplit, rfl, map_fst_eventsOf _ _, hdone, rfl, hfailed,
    map_fst_eventsOf _ _⟩

theorem installs_cacheAll {layout : ObjectLayout} {embedded : List Bytes}
    (hsound : kms.store.IsSound layout embedded) (hpieces : ∀ piece ∈ pieces, IsPiece layout piece)
    (hall : ∀ event ∈ kms.store.eventsOf (installOps pieces), event.isSuccess = true) :
    kms.Installs { kms with store := { kms.store.afterAll (installOps pieces) with
        cached := StoredObject.cacheAll kms.store.cached (StoredObject.ofBlobs pieces) } } pieces
      ((kms.store.eventsOf (installOps pieces)).map .nvm) where
  blobs := blob_ofBlobs hpieces
  found _ := StoredObject.find?_cacheAll hsound.cached.nodup
  distinct := StoredObject.nodup_cacheAll hsound.cached.nodup
  others handle hclass := by
    have hclass' : layout.classify handle ≠ .nvmStatic := by
      rwa [← hsound.layout_eq]
    -- the pieces are of the installed range, so none of them has this handle
    have hlast : StoredObject.last? (StoredObject.ofBlobs pieces) handle = none := by
      rw [StoredObject.last?_eq_none]
      intro hmem
      obtain ⟨object, hobject, rfl⟩ := List.mem_map.mp hmem
      exact hclass' (classify_ofBlobs hpieces hobject)
    have hfind : StoredObject.find?
        (StoredObject.cacheAll kms.store.cached (StoredObject.ofBlobs pieces)) handle =
        StoredObject.find? kms.store.cached handle := by
      rw [StoredObject.find?_cacheAll hsound.cached.nodup, hlast, Option.none_or]
    rw [afterAll_eq]
    unfold get?
    simp only [hfind]
    rfl
  written := ⟨_, rfl, map_fst_eventsOf _ _, hall⟩

theorem ImportEffect.imports {layout : ObjectLayout} {embedded : List Bytes}
    (hsound : kms.store.IsSound layout embedded)
    (h : kms.ImportEffect header blob code after events) :
    kms.Imports header blob code after events := by
  cases h with
  | refused hcode => exact imports_of_refused hcode
  | @checked keys plain pieces outcome hvouches heffect =>
    have hvouched : ∃ keys plain pieces, kms.Vouches header blob keys plain pieces :=
      ⟨keys, plain, pieces, hvouches⟩
    cases heffect with
    | refused error hlong => exact imports_of_refused error.code_ne_ok
    | failed hsplit hdone hfailed =>
      refine ⟨?_, fun _ => hvouched, (fun h => by cases h), fun _ => ⟨cached_afterAll _ _, .inr ?_⟩⟩
      · rw [afterAll_eq]
      · exact ⟨keys, plain, pieces, hvouches, takesBack_failedOps hsplit hdone hfailed⟩
    | installed hall =>
      have hpieces : ∀ piece ∈ pieces, IsPiece layout piece := by
        rw [← hsound.layout_eq]
        exact hvouches.isPiece
      refine ⟨?_, fun _ => hvouched, fun _ => ?_, fun h => absurd rfl h⟩
      · rw [afterAll_eq]
      · exact ⟨keys, plain, pieces, hvouches, installs_cacheAll hsound hpieces hall⟩

/-- Nothing but a long object and storage can keep a blob that is vouched for from being
installed. -/
theorem ImportEffect.code_eq_ok {keys : BlobKeys} {plain : Bytes}
    (h : kms.ImportEffect header blob code after events)
    (hvouches : kms.Vouches header blob keys plain pieces)
    (hshort : ∀ piece ∈ pieces, piece.length ≤ Limits.objectLength)
    (hall : ∀ event ∈ kms.store.eventsOf (installOps pieces), event.isSuccess = true) :
    code = .ok := by
  cases h with
  | refused hcode hnot => exact absurd hvouches (hnot keys plain pieces)
  | checked hvouches' heffect =>
    -- what was installed are the pieces that the blob is vouched for as
    obtain rfl := hvouches.pieces_eq hvouches'
    cases heffect with
    | refused error hlong =>
      obtain ⟨piece, hpiece, hlong⟩ := hlong
      exact absurd hlong (Nat.not_lt.mpr (hshort piece hpiece))
    | @failed done object rest hsplit hdone hfailed =>
      -- the failed write is one of those that succeed
      rw [installOps, hsplit, List.map_append, List.map_cons, eventsOf_append] at hall
      rw [hall _ (List.mem_append_right _ List.mem_cons_self)] at hfailed
      cases hfailed
    | installed => rfl

end Import

variable [CryptoProvider C] [ExternalToken T] [NvmStorage N] {kms : Kms C T N}

theorem dispatch_importBlob {layout : ObjectLayout} {embedded : List Bytes}
    (hvalid : layout.validate = .ok ()) (hsound : kms.store.IsSound layout embedded) {word : UInt32}
    {header blob : Placed Bytes}
    (hadmitted : kms.admitted word (.importBlob header blob) = .ok ()) :
    kms.ImportEffect header.value blob.value (kms.dispatch word (.importBlob header blob)).1.code
      (kms.dispatch word (.importBlob header blob)).2.1
      (kms.dispatch word (.importBlob header blob)).2.2 := by
  refine dispatch_ends (fun answer after events =>
    kms.ImportEffect header.value blob.value answer.code after events) hadmitted ?_
  refine codeOnly_ends (importBlob_ends (fun code hcode => ?_) fun pieces hpieces => ?_)
  · refine .refused ?_ fun keys plain pieces hvouches => ?_
    · rintro rfl
      exact blobPieces_ne_error_ok hcode
    · rw [blobPieces_eq_ok.mpr ⟨keys, plain, hvouches⟩] at hcode
      cases hcode
  · obtain ⟨keys, plain, hvouches⟩ := blobPieces_eq_ok.mp hpieces
    have hlayout : ∀ piece ∈ pieces, IsPiece layout piece := by
      rw [← hsound.layout_eq]
      exact hvouches.isPiece
    have heffect := installAll_effect hvalid hsound hlayout
    have hchecked := ImportEffect.checked hvouches heffect
    refine bind_onStore (fun error herror => ?_) fun u hok => Ends.pure ?_
    · rw [herror] at hchecked
      exact hchecked
    · rw [hok] at hchecked
      show kms.ImportEffect _ _ _ _ (_ ++ [])
      rw [List.append_nil]
      exact hchecked

/-- After any run, a request to import a blob installs what the firmware's keys vouch for, and
nothing else. -/
theorem import_installs_what_was_signed {config : KmsConfig} {crypto : C} {token : T} {nvm : N}
    {start : Kms C T N} (hnew : Kms.new config crypto token nvm = .ok start) (calls : List Call)
    (word : UInt32) (header blob : Placed Bytes) :
    let kms := start.after calls
    let call : Call := ⟨word, .importBlob header blob⟩
    kms.HasEmbeddedKeys config ∧
    kms.Imports header.value blob.value (kms.answerTo call).code (kms.next call)
      (kms.eventsOf call) ∧
    (∀ keys plain pieces, kms.Accepts call →
      kms.Vouches header.value blob.value keys plain pieces →
      (∀ piece ∈ pieces, piece.length ≤ Limits.objectLength) →
      (∀ event ∈ kms.store.eventsOf (installOps pieces), event.isSuccess = true) →
      (kms.answerTo call).code = .ok) ∧
    ∀ budget plain,
      (∀ pieces, splitObjects kms.layout budget plain = .ok pieces ↔
        pieces.flatten = plain ∧ pieces.length ≤ budget ∧
          ∀ piece ∈ pieces, IsPiece kms.layout piece) ∧
      (splitObjects kms.layout budget plain = .error .dataLenRange →
        ObjectFormat.headLength * budget < plain.length) := by
  intro kms call
  have hvalid := (new_eq_ok hnew).1
  have hsound : kms.store.IsSound config.layout config.embedded := (isSound_after hnew calls).store
  refine ⟨hasEmbeddedKeys_after hnew calls, ?_, ?_,
    fun budget plain => ⟨fun pieces => splitObjects_eq_ok, length_lt_of_dataLenRange⟩⟩
  · cases hadmitted : kms.admitted word (.importBlob header blob) with
    | error code =>
      have hrefused := dispatch_of_refused hadmitted
      rw [answerTo, next, eventsOf, hrefused]
      exact imports_of_refused (ne_ok_of_refused hadmitted)
    | ok u => exact (dispatch_importBlob hvalid hsound hadmitted).imports hsound
  · intro keys plain pieces haccepts hvouches hshort hall
    exact (dispatch_importBlob hvalid hsound haccepts.admitted).code_eq_ok hvouches hshort hall

/-- An object with a single attribute. -/
def keyObject (handle : ObjectHandle) (kind : AttributeKind) (value : Bytes) : Bytes :=
  (serialise Limits.objectLength handle [[⟨kind, value⟩]]).toOption.getD []

/-- Headers are checked with the generator of the group, which is the public key of the private value
one, and payloads are opened with a key of zeros. -/
def signingConfig : KmsConfig where
  layout := .standard
  embedded := [keyObject 3 AttributeKind.ecPoint P256.Point.generator.toSec1,
    keyObject 4 AttributeKind.value (List.replicate 32 0)]
  blobKeys := some ⟨3, 4⟩

def signingStart : Kms NoCrypto NoExternalToken SimulatedNvm :=
  ⟨.allOpen, .down, ObjectStore.new signingConfig.layout signingConfig.embedded default, default,
    default, signingConfig.blobKeys⟩

/-- The header of a plaintext of 20 bytes: its digest and, after the signed part, the signature. -/
def signedHeader : Bytes :=
  Bytes.ofWord BlobHeader.magic ++ Bytes.ofNatLE 4 0 ++ Bytes.ofNatLE 12 20 ++
    Bytes.ofNatBE 32 0xf185b9f6c791dff5d4a466dfa87a603609f4f0f48782e34e7e34dc636643545d ++
    Bytes.ofNatLE 76 0 ++
    Bytes.ofNatBE 32 0xa7638bf15241b285bf2bc3fe7d9647be073c4fac098694bad3866288b21a3a9c ++
    Bytes.ofNatBE 32 0xd95a4717adbd748f58b26cc84643f26b23b09d33d4467f219d27fe3e067a18d6 ++
    Bytes.ofNatLE 128 0

/-- An object with the handle 30 and no attributes, encrypted, and the tag. -/
def sealedObject : Bytes :=
  Bytes.ofNatBE 36 0xdf05ec0f565133cb98ba977c732d080dd50f29a0062f8d019a8d78f6990921f4f6338c23

/-- That object is vouched for, and installed. -/
theorem signed_object_is_installed :
    let kms := signingStart.after [⟨FunctionId.initialise.word, .initialise⟩]
    let call : Call :=
      ⟨FunctionId.importBlob.word, .importBlob ⟨default, signedHeader⟩ ⟨default, sealedObject⟩⟩
    (kms.answerTo call).code = .ok ∧ ∃ keys plain pieces,
      kms.Vouches signedHeader sealedObject keys plain pieces ∧
        kms.Installs (kms.next call) pieces (kms.eventsOf call) := by
  intro kms call
  have hnew : Kms.new signingConfig NoCrypto.mk NoExternalToken.mk (default : SimulatedNvm) =
      .ok signingStart := rfl
  have hok : (kms.answerTo call).code = .ok := by decide +kernel
  have himports := (import_installs_what_was_signed hnew [⟨FunctionId.initialise.word, .initialise⟩]
    FunctionId.importBlob.word ⟨default, signedHeader⟩ ⟨default, sealedObject⟩).2.1
  exact ⟨hok, himports.installed hok⟩

end Kms

end KeyEnclave

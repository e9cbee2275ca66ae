import KeyEnclave.Kms.Basic

/-!
# Objects and searches

Creating, reading and destroying objects, and searching for them.

## Main definitions

* `Kms.createObject`, `destroyObject` — objects of the writable ranges.
* `Kms.getAttributeValue`, `setAttributeValue` — attributes of an object.
* `Kms.findObjectsInit`, `findObjects`, `findObjectsFinal` — a search and its pages.
* `serveQuery` — what one query learns of an object.
-/

namespace KeyEnclave

/-- What a query learns of an object that may be read, and the code if it learns nothing. -/
def serveQuery (object : ObjectView) (query : AttributeQuery) :
    AttributeReply × Option ReturnCode :=
  match object.attribute? query.kind with
  | none => (⟨none, []⟩, some .attributeTypeInvalid)
  | some value =>
    match query.room with
    | none => (⟨some value.length, []⟩, none)
    | some room =>
      if value.length ≤ room then (⟨some value.length, value⟩, none)
      else (⟨none, []⟩, some .bufferTooSmall)

namespace Kms

variable {C T N : Type} [CryptoProvider C] [ExternalToken T] [NvmStorage N]

/-- Attributes of which a created object has to have one besides its class. -/
def typeAttributes : List AttributeKind :=
  [AttributeKind.certificateType, AttributeKind.hwFeatureType, AttributeKind.keyType]

/-- Whether a template has a class and a type. -/
def isComplete (template : Template) : Bool :=
  (template.find? AttributeKind.objectClass).isSome &&
    typeAttributes.any fun kind => (template.find? kind).isSome

/-- Create an object, on the token if it can. -/
def createObject (session : SessionHandle) (template : Template) : Step C T N Answer := do
  let kms ← get
  let record ← Action.ofExcept (kms.requireSession session)
  match kms.tokenSession .createObject session with
  | .ok external =>
    let object ← Action.ofExcept (← askToken (.createObject external template))
    pure ⟨.ok, .object (some object)⟩
  | .error _ =>
    Action.ofExcept (requireIdle record)
    if !isComplete template then throw .templateIncomplete
    let object ← storeObject (targetRange kms.layout template) [template]
    pure ⟨.ok, .object (some object)⟩

/-- Destroy an object that was created at run time. -/
def destroyObject (session : SessionHandle) (object : ObjectHandle) : Step C T N ReturnCode := do
  let kms ← get
  let _ ← Action.ofExcept (kms.requireSession session)
  if kms.latches.isKeyLocked object then throw .objectHandleInvalid
  match kms.layout.classify object with
  | .extTokenStatic | .extTokenDynamic =>
    let external ← Action.ofExcept (kms.tokenSession .destroyObject session)
    askToken (.destroyObject external object)
  | .nvmDynamic | .vmDynamic =>
    match kms.lookup object with
    | none => throw .objectHandleInvalid
    | some target =>
      if !target.isDestroyable then throw .actionProhibited
      onStore (ObjectStore.remove object)
      pure .ok
  | .embedded | .nvmStatic | .unknown => throw .objectHandleInvalid

/-- Serve queries one by one; the code is that of the last one that learnt nothing. -/
def serveQueries (object : ObjectView) (queries : List AttributeQuery) : Answer :=
  let served := queries.map (serveQuery object)
  ⟨((served.filterMap Prod.snd).getLast?).getD .ok, .values (served.map Prod.fst)⟩

/-- Read attributes of an object. -/
def getAttributeValue (session : SessionHandle) (object : ObjectHandle)
    (queries : List AttributeQuery) : Step C T N Answer := do
  let kms ← get
  let record ← Action.ofExcept (kms.requireSession session)
  if kms.latches.isKeyLocked object then throw .objectHandleInvalid
  if (kms.layout.classify object).isExternal then
    let external ← Action.ofExcept (kms.tokenSession .getAttributeValue session)
    let (code, replies) ← askToken (.getAttributeValue external object queries)
    pure ⟨code, .values replies⟩
  else
    Action.ofExcept (requireIdle record)
    match kms.lookup object with
    | none => throw .objectHandleInvalid
    | some target =>
      if !target.isExtractable then
        pure ⟨.attributeSensitive, .values (queries.map fun _ => ⟨none, []⟩)⟩
      else pure (serveQueries target queries)

/-- Change attributes of an object; the enclave's own objects never change. -/
def setAttributeValue (session : SessionHandle) (object : ObjectHandle) (template : Template) :
    Step C T N ReturnCode := do
  let kms ← get
  let _ ← Action.ofExcept (kms.requireSession session)
  if kms.latches.isKeyLocked object then throw .objectHandleInvalid
  let range := kms.layout.classify object
  if range.isExternal then
    let external ← Action.ofExcept (kms.tokenSession .setAttributeValue session)
    askToken (.setAttributeValue external object template)
  else if range.isLocal then throw .functionNotSupported
  else throw .objectHandleInvalid

/-- The handles of the visible objects that match a template. -/
def matching (kms : Kms C T N) (template : Template) : List ObjectHandle :=
  kms.store.handles.filter fun handle =>
    match kms.lookup handle with
    | some object => decide (object.Matches template)
    | none => false

/-- Begin a search, on the token if it can. -/
def findObjectsInit (session : SessionHandle) (template : Template) : Step C T N ReturnCode := do
  let kms ← get
  let record ← Action.ofExcept (kms.requireSession session)
  match kms.tokenSession .findObjectsInit session with
  | .ok external => askToken (.findObjectsInit external template)
  | .error _ =>
    Action.ofExcept (requireIdle record)
    updateSessions fun table => table.startSearch session (kms.matching template)
    pure .ok

/-- Hand out the next results of a search. -/
def findObjects (session : SessionHandle) (capacity : Nat) : Step C T N Answer := do
  let kms ← get
  let _ ← Action.ofExcept (kms.requireSession session)
  if capacity = 0 then throw .argumentsBad
  match kms.tokenSession .findObjects session with
  | .ok external =>
    let page ← Action.ofExcept (← askToken (.findObjects external capacity))
    pure ⟨.ok, .objects (some page.length) page⟩
  | .error _ =>
    let (page, sessions) ← Action.ofExcept (kms.sessions.nextFound session capacity)
    set { kms with sessions := sessions }
    pure ⟨.ok, .objects (some page.length) page⟩

/-- End a search. -/
def findObjectsFinal (session : SessionHandle) : Step C T N ReturnCode := do
  let kms ← get
  let record ← Action.ofExcept (kms.requireSession session)
  match kms.tokenSession .findObjectsFinal session with
  | .ok external => askToken (.findObjectsFinal external)
  | .error _ =>
    if record.state ≠ .searching then throw .operationNotInitialised
    resetSession session
    pure .ok

end Kms

end KeyEnclave

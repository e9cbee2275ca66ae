import KeyEnclave.Proofs.Kms.Creating

/-!
# Reading the attributes of an object

A caller asks for any number of attributes at once, with a buffer for each value or without. Every
query is answered on its own. The code tells of one that was refused, the last.

## Main definitions

* `ObjectView.Withholds` — the values of an object may not be read.
* `ObjectView.Grants` — an object has what a query asks for, and the query has room for it.
* `ObjectView.Answers` — what the reply to a query says of an object.
* `Kms.ReadsFrom` — what becomes of a call to read attributes.

## Main results

* `ObjectView.code_eq_ok`, `ObjectView.code_of_last` — the code that many queries get together.
* `Kms.attributes_read` — every call to read attributes of an object is served from it.
-/

namespace KeyEnclave

/-- What the reply to a query leaves in the buffer that came with it. -/
def AttributeReply.leaves (reply : AttributeReply) (contents : Bytes) : Bytes :=
  contents.overwrite reply.written

theorem AttributeReply.leaves_nothing (length : Option Nat) (contents : Bytes) :
    leaves ⟨length, []⟩ contents = contents := by
  simp [leaves, Bytes.overwrite]

namespace ObjectView

/-- The first attribute that says whether the values of the object may be read says no. -/
def Withholds (view : ObjectView) : Prop :=
  ∃ rest, view.attribute? AttributeKind.extractable = some (0 :: rest)

/-- The object has the attribute, and the query brings no buffer or one that is long enough. -/
def Grants (view : ObjectView) (query : AttributeQuery) : Prop :=
  ∃ value, view.attribute? query.kind = some value ∧
    ∀ room, query.room = some room → value.length ≤ room

/-- The code for a query that is refused. -/
def refusal (view : ObjectView) (query : AttributeQuery) : ReturnCode :=
  if view.attribute? query.kind = none then .attributeTypeInvalid else .bufferTooSmall

/-- What the reply to a query says of an object. -/
structure Answers (view : ObjectView) (query : AttributeQuery) (reply : AttributeReply) :
    Prop where
  /-- A query that is granted learns the length of the attribute, and finds the value at the front of
  its buffer, which is as it was behind the value. -/
  granted : ∀ value, view.attribute? query.kind = some value → view.Grants query →
    reply.length = some value.length ∧
      ∀ contents : Bytes, query.room = some contents.length →
        reply.leaves contents = value ++ contents.drop value.length
  /-- Any other learns that the attribute is unavailable, and its buffer is as it was. -/
  refused : ¬view.Grants query →
    reply.length = none ∧ ∀ contents : Bytes, reply.leaves contents = contents
  /-- Nothing is written for a query without a buffer. -/
  probed : query.room = none → reply.written = []

variable {view : ObjectView} {query : AttributeQuery} {queries : List AttributeQuery}

-- ═══════════════════════════════════════════════════════════════════════════
-- One query
-- ═══════════════════════════════════════════════════════════════════════════

/-- A query that is granted gets the value, if it has a buffer for it. -/
theorem serveQuery_of_grants {value : Bytes} (hvalue : view.attribute? query.kind = some value)
    (h : view.Grants query) :
    serveQuery view query = (⟨some value.length, if query.room = none then [] else value⟩, none) := by
  obtain ⟨found, hfound, hfits⟩ := h
  obtain rfl : value = found := Option.some.inj (hvalue.symm.trans hfound)
  unfold serveQuery
  rw [hvalue]
  cases hroom : query.room with
  | none => rfl
  | some room => simp only [if_pos (hfits room hroom), reduceCtorEq, if_false]

/-- A query that is refused gets nothing. -/
theorem serveQuery_of_not_grants (h : ¬view.Grants query) :
    serveQuery view query = (⟨none, []⟩, some (view.refusal query)) := by
  unfold serveQuery refusal
  cases hvalue : view.attribute? query.kind with
  | none => rfl
  | some value =>
    cases hroom : query.room with
    | none => exact absurd ⟨value, hvalue, fun _ hsome => nomatch hroom.symm.trans hsome⟩ h
    | some room =>
      have hshort : ¬value.length ≤ room := by
        intro hle
        refine h ⟨value, hvalue, fun found hfound => ?_⟩
        obtain rfl := Option.some.inj (hroom.symm.trans hfound)
        exact hle
      simp only [if_neg hshort, reduceCtorEq, if_false]

theorem answers_serveQuery (view : ObjectView) (query : AttributeQuery) :
    view.Answers query (serveQuery view query).1 := by
  constructor
  case granted =>
    intro value hvalue hgrants
    rw [serveQuery_of_grants hvalue hgrants]
    refine ⟨rfl, fun contents hroom => ?_⟩
    obtain ⟨found, hfound, hfits⟩ := hgrants
    obtain rfl : value = found := Option.some.inj (hvalue.symm.trans hfound)
    rw [if_neg (by simp [hroom])]
    show value.take contents.length ++ contents.drop value.length = _
    rw [List.take_of_length_le (hfits _ hroom)]
  case refused =>
    intro hrefused
    rw [serveQuery_of_not_grants hrefused]
    exact ⟨rfl, AttributeReply.leaves_nothing none⟩
  case probed =>
    intro hroom
    by_cases hgrants : view.Grants query
    · obtain ⟨value, hvalue, -⟩ := id hgrants
      rw [serveQuery_of_grants hvalue hgrants, if_pos hroom]
    · rw [serveQuery_of_not_grants hgrants]

-- ═══════════════════════════════════════════════════════════════════════════
-- Many queries
-- ═══════════════════════════════════════════════════════════════════════════

theorem answers_serveQueries (view : ObjectView) (queries : List AttributeQuery) :
    ∃ replies, (Kms.serveQueries view queries).outputs = .values replies ∧
      List.Forall₂ view.Answers queries replies := by
  refine ⟨_, rfl, ?_⟩
  rw [List.map_map, List.forall₂_map_right_iff, List.forall₂_same]
  exact fun query _ => answers_serveQuery view query

/-- The codes of the queries that are refused, in order. -/
theorem codes_serveQueries (view : ObjectView) (queries : List AttributeQuery) :
    (queries.map (serveQuery view)).filterMap Prod.snd = [] ↔
      ∀ query ∈ queries, view.Grants query := by
  rw [List.filterMap_map, List.filterMap_eq_nil_iff]
  refine forall₂_congr fun query _ => ?_
  by_cases hgrants : view.Grants query
  · obtain ⟨value, hvalue, -⟩ := id hgrants
    simp [serveQuery_of_grants hvalue hgrants, hgrants]
  · simp [serveQuery_of_not_grants hgrants, hgrants]

theorem refusal_ne_ok (view : ObjectView) (query : AttributeQuery) : view.refusal query ≠ .ok := by
  unfold refusal
  split <;> nofun

/-- Queries are answered with `ok` exactly if all of them are granted. -/
theorem code_eq_ok : (Kms.serveQueries view queries).code = .ok ↔
    ∀ query ∈ queries, view.Grants query := by
  rw [← codes_serveQueries]
  show ((((queries.map (serveQuery view)).filterMap Prod.snd).getLast?).getD .ok = .ok) ↔ _
  refine ⟨fun hok => List.getLast?_eq_none_iff.mp ?_, fun hnil => by rw [hnil]; rfl⟩
  cases hlast : ((queries.map (serveQuery view)).filterMap Prod.snd).getLast? with
  | none => rfl
  | some code =>
    rw [hlast] at hok
    obtain ⟨served, hserved, hcode⟩ := List.mem_filterMap.mp (List.mem_of_getLast? hlast)
    obtain ⟨query, -, rfl⟩ := List.mem_map.mp hserved
    by_cases hgrants : view.Grants query
    · obtain ⟨value, hvalue, -⟩ := id hgrants
      rw [serveQuery_of_grants hvalue hgrants] at hcode
      cases hcode
    · rw [serveQuery_of_not_grants hgrants] at hcode
      exact absurd ((Option.some.inj hcode).trans hok) (refusal_ne_ok view query)

/-- Otherwise the code is that of the last one that is refused. -/
theorem code_of_last {earlier later : List AttributeQuery} (hrefused : ¬view.Grants query)
    (hlater : ∀ other ∈ later, view.Grants other) :
    (Kms.serveQueries view (earlier ++ query :: later)).code = view.refusal query := by
  unfold Kms.serveQueries
  simp only [List.map_append, List.map_cons, List.filterMap_append, List.filterMap_cons,
    serveQuery_of_not_grants hrefused, (codes_serveQueries view later).mpr hlater,
    List.getLast?_append, List.getLast?_singleton, Option.some_or, Option.getD_some]

end ObjectView

namespace Kms

variable {C T N : Type} {kms : Kms C T N} {read : Call} {session : SessionHandle}
  {handle : ObjectHandle} {values : PlacedQueries} {view : ObjectView}
  [CryptoProvider C] [ExternalToken T] [NvmStorage N]

/-- What becomes of a call to read attributes of an object. -/
structure ReadsFrom (kms : Kms C T N) (read : Call) (view : ObjectView)
    (queries : List AttributeQuery) : Prop where
  /-- Nothing changes, and nobody is asked. -/
  unchanged : kms.next read = kms ∧ kms.eventsOf read = []
  /-- Of an object whose values are withheld, every length is unavailable and nothing is written. -/
  withheld : view.Withholds → kms.answerTo read =
    ⟨.attributeSensitive, .values (queries.map fun _ => ⟨none, []⟩)⟩
  /-- Of any other, each query is answered on its own. -/
  answered : ¬view.Withholds → ∃ replies, (kms.answerTo read).outputs = .values replies ∧
    List.Forall₂ view.Answers queries replies
  /-- The call succeeds exactly if every query is granted. -/
  ok_iff : ¬view.Withholds →
    ((kms.answerTo read).code = .ok ↔ ∀ query ∈ queries, view.Grants query)
  /-- Otherwise its code is that of the last query that is refused. -/
  last : ¬view.Withholds → ∀ earlier query later, queries = earlier ++ query :: later →
    ¬view.Grants query → (∀ other ∈ later, view.Grants other) →
      (kms.answerTo read).code = view.refusal query

theorem dispatch_getAttributeValue (hread : kms.MayRead read session handle values)
    (hget : kms.store.get? handle = some view) :
    kms.dispatch read.word read.request = (if view.isExtractable then
        serveQueries view values.queries
      else ⟨.attributeSensitive, .values (values.queries.map fun _ => ⟨none, []⟩)⟩, kms, []) := by
  have hadmitted := hread.accepted.admitted
  have hrun : (getAttributeValue session handle values.queries).run kms = _ :=
    run_getAttributeValue hread.idle hread.unlatched hget
  rw [hread.request_eq] at hadmitted ⊢
  rw [dispatch_of_admitted hadmitted]
  show (Request.concluding _ ((getAttributeValue session handle values.queries).run kms).answer,
    ((getAttributeValue session handle values.queries).run kms).state,
    ((getAttributeValue session handle values.queries).run kms).journal) = _
  rw [hrun]
  rfl

/-- Whoever may read an object gets an answer to each query from it, and leaves everything as it
is. -/
theorem attributes_read (hread : kms.MayRead read session handle values)
    (hget : kms.store.get? handle = some view) : kms.ReadsFrom read view values.queries := by
  have hdispatch := dispatch_getAttributeValue hread hget
  have hserved (hreadable : ¬view.Withholds) :
      kms.answerTo read = serveQueries view values.queries := by
    rw [answerTo, hdispatch, if_pos (ObjectView.isExtractable_iff.mpr hreadable)]
  constructor
  case unchanged =>
    rw [next, eventsOf, hdispatch]
    exact ⟨rfl, rfl⟩
  case withheld =>
    intro hwithheld
    rw [answerTo, hdispatch, if_neg]
    exact fun hreadable => ObjectView.isExtractable_iff.mp hreadable hwithheld
  case answered =>
    intro hreadable
    rw [hserved hreadable]
    exact ObjectView.answers_serveQueries view values.queries
  case ok_iff =>
    intro hreadable
    rw [hserved hreadable]
    exact ObjectView.code_eq_ok
  case last =>
    intro hreadable earlier query later hqueries hrefused hlater
    rw [hserved hreadable, hqueries]
    exact ObjectView.code_of_last hrefused hlater

/-- A label is asked for with room for it, without a buffer and with too short a one; the object has
no value. -/
theorem label_read :
    let start : Kms NoCrypto NoExternalToken NoNvm := plain .standard .mk .mk .mk
    let kms := start.after [⟨FunctionId.initialise.word, .initialise⟩,
      ⟨FunctionId.openSession.word, .openSession 1 SessionFlags.serialSession none 0⟩,
      ⟨FunctionId.createObject.word, .createObject 1 (templateOf
        [(AttributeKind.objectClass, [0, 0, 0, 0]), (AttributeKind.label, [97, 98]),
          (AttributeKind.keyType, [3, 0, 0, 0])]) 0⟩]
    let values : PlacedQueries := ⟨0, [⟨AttributeKind.label, some ⟨0, 3⟩, none⟩,
      ⟨AttributeKind.value, none, some 7⟩, ⟨AttributeKind.label, none, none⟩,
      ⟨AttributeKind.label, some ⟨0, 1⟩, some 7⟩]⟩
    let read : Call := ⟨FunctionId.getAttributeValue.word, .getAttributeValue 1 50 values⟩
    kms.answerTo read = ⟨.bufferTooSmall,
        .values [⟨some 2, [97, 98]⟩, ⟨none, []⟩, ⟨some 2, []⟩, ⟨none, []⟩]⟩ ∧
      kms.MayRead read 1 50 values ∧
        ∃ view, kms.store.get? 50 = some view ∧ kms.ReadsFrom read view values.queries := by
  intro start kms values read
  have hread : kms.MayRead read 1 50 values := {
    request_eq := rfl
    accepted := ⟨by decide +kernel, by decide +kernel⟩
    idle := exists_idle_of_get? (by decide +kernel) (by decide +kernel)
    unlatched := by decide +kernel }
  have hsome : (kms.store.get? 50).isSome = true := by decide +kernel
  obtain ⟨view, hget⟩ := Option.isSome_iff_exists.mp hsome
  exact ⟨by decide +kernel, hread, view, hget, attributes_read hread hget⟩

end Kms

end KeyEnclave

import KeyEnclave.Proofs.Object.Refusing

/-!
# Builders and views are inverse

Whatever is appended to a builder, in whatever calls, is read back from what it finishes: the first
attribute of each type, in order. In the other direction, an object that names no type twice and is
padded with zeros is what a builder makes of its own attributes.

The head of an object has a word for the size of its body. A body that is longer than this word can
say is written all the same, and what is finished is then not read as an object.

## Main definitions

* `BuilderCall` — a call that appends to a builder.
* `ObjectBuilder.afterCalls` — the builder after calls that all succeed.

## Main results

* `ObjectBuilder.Holds.extended` — what a template leaves that was appended.
* `ObjectBuilder.Holds.isObject_iff` — when what was appended can be read back.
* `ObjectBuilder.builder_view_inverse` — building then parsing, and parsing then building.
* `ObjectBuilder.oversized_object_is_refused` — an object that is too long to be read back.
-/

namespace KeyEnclave

open ObjectFormat

namespace Template

variable {template other : Template}

theorem merge_of_nodup (h : (kinds (template ++ other)).Nodup) :
    merge template other = template ++ other := by
  induction other generalizing template with
  | nil => exact (List.append_nil template).symm
  | cons a other ih =>
    have hnew : a.kind ∉ kinds template := by
      intro hmem
      rw [kinds, List.map_append] at h
      exact (List.nodup_append.mp h).2.2 _ hmem _ List.mem_cons_self rfl
    rw [List.append_cons] at h ⊢
    rw [merge_cons, if_neg hnew, ih h]

/-- Where no type is named twice, every attribute is the first of its type. -/
theorem firsts_of_nodup (h : (kinds template).Nodup) : firsts template = template :=
  merge_of_nodup h

end Template

/-- A call that appends to a builder. -/
inductive BuilderCall
  | push (kind : AttributeKind) (value : Bytes)
  | pushWord (kind : AttributeKind) (value : UInt32)
  | extend (template : Template)
  deriving DecidableEq, Repr

namespace BuilderCall

variable {capacity : Nat}

/-- The attributes that a call is to append. -/
def attributes : BuilderCall → Template
  | push kind value => [⟨kind, value⟩]
  | pushWord kind value => [⟨kind, Bytes.ofWord value⟩]
  | extend template => template

/-- A call of a builder. -/
def run (builder : ObjectBuilder capacity) :
    BuilderCall → Except ObjectError Unit × ObjectBuilder capacity
  | push kind value => builder.push kind value
  | pushWord kind value => builder.pushWord kind value
  | extend template => builder.extend template

/-- Every call appends its attributes one by one. -/
theorem run_eq (builder : ObjectBuilder capacity) (call : BuilderCall) :
    call.run builder = builder.extend call.attributes := by
  have hpush (kind : AttributeKind) (value : Bytes) :
      builder.push kind value = builder.extend [⟨kind, value⟩] := by
    simp only [ObjectBuilder.extend]
    rcases builder.push kind value with ⟨_ | _, after⟩ <;> rfl
  cases call with
  | push kind value => exact hpush kind value
  | pushWord kind value => exact hpush kind (Bytes.ofWord value)
  | extend template => rfl

end BuilderCall

/-- The bytes are those of an object in which every value is padded with zeros. -/
def ObjectView.IsZeroPadded (blob : Bytes) : Prop :=
  ∃ object : Written, object.bytes = blob ∧ ∀ entry ∈ object.entries, entry.IsZeroPadded

namespace ObjectBuilder

variable {capacity : Nat} {builder after : ObjectBuilder capacity} {handle : ObjectHandle}
  {written : List Attribute}

/-- The builder after calls, if all of them succeed. -/
def afterCalls (builder : ObjectBuilder capacity) :
    List BuilderCall → Option (ObjectBuilder capacity)
  | [] => some builder
  | call :: calls =>
    match call.run builder with
    | (.ok (), builder) => builder.afterCalls calls
    | (.error _, _) => none

/-- A template is appended if each of its attributes is. -/
theorem extend_cons_eq_ok {a : Attribute} {template : Template} :
    builder.extend (a :: template) = (.ok (), after) ↔
      ∃ next, builder.push a.kind a.value = (.ok (), next) ∧
        next.extend template = (.ok (), after) := by
  rw [ObjectBuilder.extend]
  constructor
  · intro h
    split at h
    · next next hpush => exact ⟨next, hpush, h⟩
    · next hfailed => exact absurd h (hfailed _)
  · rintro ⟨next, hpush, hrest⟩
    rw [hpush]
    exact hrest

theorem extend_append {template other : Template} {next : ObjectBuilder capacity}
    (h : builder.extend template = (.ok (), next)) :
    builder.extend (template ++ other) = next.extend other := by
  induction template generalizing builder with
  | nil =>
    obtain ⟨-, rfl⟩ := Prod.mk.inj h
    rfl
  | cons a template ih =>
    obtain ⟨first, hpush, hrest⟩ := extend_cons_eq_ok.mp h
    rw [List.cons_append, ObjectBuilder.extend, hpush]
    exact ih hrest

/-- Calls that all succeed append a template. -/
theorem extend_of_afterCalls {calls : List BuilderCall}
    (h : builder.afterCalls calls = some after) :
    builder.extend (calls.flatMap BuilderCall.attributes) = (.ok (), after) := by
  induction calls generalizing builder with
  | nil => exact congrArg _ (Option.some.inj h)
  | cons call calls ih =>
    simp only [ObjectBuilder.afterCalls] at h
    split at h
    · next next hrun =>
      rw [call.run_eq] at hrun
      rw [List.flatMap_cons, extend_append hrun]
      exact ih h
    · cases h

/-- A template that was appended is a run of pushes. -/
theorem afterPushes_of_extend {template : Template}
    (h : builder.extend template = (.ok (), after)) :
    builder.afterPushes template = after := by
  induction template generalizing builder with
  | nil => exact (Prod.mk.inj h).2
  | cons a template ih =>
    obtain ⟨next, hpush, hrest⟩ := extend_cons_eq_ok.mp h
    obtain rfl : builder.pushed a = next := congrArg Prod.snd hpush
    exact ih hrest

/-- A template that was appended has left the first attribute of each type, unless it names so many
types that a word can not count them. -/
theorem Holds.extended (h : builder.Holds handle written) {template : Template}
    (hextend : builder.extend template = (.ok (), after)) :
    after.Holds handle (Template.merge written template) ∨
      (UInt32.size ≤ (Template.merge written template).length ∧
        headLength + 8 * UInt32.size ≤ after.buffer.length) := by
  induction template generalizing builder written with
  | nil =>
    obtain ⟨-, rfl⟩ := Prod.mk.inj hextend
    exact .inl h
  | cons a template ih =>
    obtain ⟨next, hpush, hrest⟩ := extend_cons_eq_ok.mp hextend
    have heffect := push_effect h.isSized.fits a
    rw [hpush] at heffect
    have hgrown := ((heffect.isSized h.isSized).prefix_afterPushes template).length_le
    rw [afterPushes_of_extend hrest] at hgrown
    rw [Template.merge_cons]
    cases heffect with
    | known hmem =>
      rw [h.attributes_eq] at hmem
      rw [if_pos hmem]
      exact ih h hrest
    | appended hnew hvalue hfits =>
      rw [h.attributes_eq] at hnew
      rw [if_neg hnew]
      have hlength : builder.buffer.length + (encodeAttribute a).length =
          headLength + (encode (written ++ [a])).length := by
        rw [h.length_buffer, encode_concat, List.length_append, Nat.add_assoc]
      by_cases hcount : written.length + 1 < UInt32.size
      · exact ih (h.concat hvalue hcount (hlength ▸ hfits)) hrest
      -- from here on the count is wrong, but the buffer has grown too long for that to matter
      · have hmany := (Template.prefix_merge (written ++ [a]) template).length_le
        have hlong := length_le_length_encode (written ++ [a])
        rw [List.length_append] at hgrown
        rw [List.length_append, List.length_singleton] at hmany hlong
        exact .inr ⟨by omega, by omega⟩

/-- What was appended to an empty builder can be read back if its size is a word. -/
theorem Holds.isObject_iff (h : builder.Holds handle []) {template : Template}
    (hextend : builder.extend template = (.ok (), after)) :
    (∃ view, ObjectView.parse after.finish = .ok view) ↔
      (encode template.firsts).length < UInt32.size := by
  obtain ⟨body, hbody⟩ : ∃ body, openHead handle ++ body = after.buffer := by
    have hgrown := h.isSized.prefix_afterPushes template
    rw [afterPushes_of_extend hextend, h.buffer] at hgrown
    exact (List.prefix_append _ _).trans hgrown
  have hlength := congrArg List.length hbody
  rw [List.length_append, length_openHead] at hlength
  rcases h.extended hextend with hholds | ⟨hmany, hlong⟩
  · constructor
    · rintro ⟨view, hparse⟩
      exact ((parse_finish_eq_ok hholds.buffer).mp hparse).1
    · intro hsize
      obtain ⟨view, hparse, -⟩ := hholds.parse_finish hsize
      exact ⟨view, hparse⟩
  · constructor
    · rintro ⟨view, hparse⟩
      have hsize := ((parse_finish_eq_ok hbody.symm).mp hparse).1
      omega
    · intro hsize
      have hshort : 8 * template.firsts.length ≤ _ := length_le_length_encode template.firsts
      change UInt32.size ≤ template.firsts.length at hmany
      omega

/-- Attributes pushed one by one are a template. -/
theorem afterCalls_pushes {template : Template}
    (h : builder.extend template = (.ok (), after)) :
    builder.afterCalls (template.map fun a => .push a.kind a.value) = some after := by
  induction template generalizing builder with
  | nil =>
    obtain ⟨-, rfl⟩ := Prod.mk.inj h
    rfl
  | cons a template ih =>
    obtain ⟨next, hpush, hrest⟩ := extend_cons_eq_ok.mp h
    rw [List.map_cons, ObjectBuilder.afterCalls, BuilderCall.run, hpush]
    exact ih hrest

/-- An object that names no type twice and is padded with zeros is built from its attributes. -/
theorem built_of_written (object : Written)
    (hnodup : (Template.kinds object.view.attributes).Nodup)
    (hzero : ∀ entry ∈ object.entries, entry.IsZeroPadded)
    (hcapacity : object.bytes.length ≤ capacity) :
    ∃ builder after, new capacity object.handle = .ok builder ∧
      builder.extend object.view.attributes = (.ok (), after) ∧ after.finish = object.bytes := by
  have hencode : encode object.view.attributes = object.body := by
    rw [object.attributes_view, encode, List.flatMap_map, Written.body]
    exact List.flatMap_congr fun entry h => (Entry.bytes_of_isZeroPadded (hzero entry h)).symm
  have hmerge : Template.merge [] object.view.attributes = object.view.attributes :=
    Template.firsts_of_nodup hnodup
  have hlength : (encode object.view.attributes).length = object.size.toNat := by
    rw [hencode, Written.body, object.size_eq]
  have hcount : object.view.attributes.length = object.count.toNat := by
    rw [object.attributes_view, List.length_map, object.count_eq]
  rw [object.length_bytes] at hcapacity
  obtain ⟨builder, hnew, hholds⟩ := new_eq object.handle
    (Nat.le_trans (Nat.le_add_right headLength object.size.toNat) hcapacity)
  have hsize : (encode (Template.merge [] object.view.attributes)).length < UInt32.size := by
    rw [hmerge, hlength]
    exact object.size.toNat_lt
  obtain ⟨after, hextend, hafter⟩ | ⟨hlong, -⟩ :=
    hholds.extend object.view.attributes (.inr hsize)
  · refine ⟨builder, after, hnew, hextend, ?_⟩
    rw [hmerge] at hafter
    have hafterCount : after.count = object.count :=
      UInt32.toNat_inj.mp (hafter.count.trans hcount)
    rw [hafter.finish_eq, hlength, UInt32.ofNat_toNat, hafterCount, hencode]
    rfl
  · rw [hmerge, hlength] at hlong
    exact absurd hcapacity (Nat.not_le.mpr hlong)

/-- What calls of a builder append, and all of them succeed, stands behind the head of what it
finishes: the first attribute of each type, in order, padded with zeros. It is read back exactly if
its size is a word, as it is in every builder that has no room for more. Pushing the attributes of
an object that names no type twice and is padded with zeros makes this object again. -/
theorem builder_view_inverse (hcapacity : headLength ≤ capacity) (handle : ObjectHandle) :
    (∃ builder, new capacity handle = .ok builder ∧ ∀ calls after,
      builder.afterCalls calls = some after →
      let pushed : Template := calls.flatMap BuilderCall.attributes
      let size := (pushed.firsts.map fun a => attributeLength a.value.length).sum
      (pushed.firsts.length < UInt32.size →
        after.finish.drop headLength = encode pushed.firsts ∧
          after.finish.length = headLength + size) ∧
      (capacity < headLength + UInt32.size → size < UInt32.size) ∧
      ((∃ view, ObjectView.parse after.finish = .ok view) ↔ size < UInt32.size) ∧
      ∀ view, ObjectView.parse after.finish = .ok view →
        view.handle = handle ∧ view.attributes = pushed.firsts ∧
          (∀ kind, view.attribute? kind = pushed.find? kind) ∧
          ObjectView.IsZeroPadded after.finish ∧ after.finish.length = headLength + size) ∧
    ∀ blob view, ObjectView.parse blob = .ok view → (Template.kinds view.attributes).Nodup →
      ObjectView.IsZeroPadded blob → blob.length ≤ capacity →
      ∃ builder after, new capacity view.handle = .ok builder ∧
        builder.afterCalls (view.attributes.map fun a => .push a.kind a.value) = some after ∧
        after.finish = blob := by
  constructor
  · obtain ⟨builder, hnew, hempty⟩ := new_eq handle hcapacity
    refine ⟨builder, hnew, fun calls after hcalls => ?_⟩
    intro pushed size
    have hextend := extend_of_afterCalls hcalls
    have hlength : size = (encode pushed.firsts).length := (length_encode _).symm
    have hcases : after.Holds handle pushed.firsts ∨ (UInt32.size ≤ pushed.firsts.length ∧
        headLength + 8 * UInt32.size ≤ after.buffer.length) := hempty.extended hextend
    have hobject : (∃ view, ObjectView.parse after.finish = .ok view) ↔
        (encode pushed.firsts).length < UInt32.size := hempty.isObject_iff hextend
    rw [hlength]
    refine ⟨fun hcount => ?_, fun hshort => ?_, hobject, fun view hparse => ?_⟩
    · obtain hholds | ⟨hmany, -⟩ := hcases
      · exact ⟨hholds.drop_finish, hholds.length_finish⟩
      · exact absurd hcount (Nat.not_lt.mpr hmany)
    · obtain hholds | ⟨-, hlong⟩ := hcases
      · have hfits := hholds.fits
        omega
      · have hfits := (hempty.isSized.afterPushes pushed).fits
        rw [afterPushes_of_extend hextend] at hfits
        omega
    · have hsize := hobject.mp ⟨view, hparse⟩
      obtain hholds | ⟨hmany, -⟩ := hcases
      · obtain ⟨object, hbytes, hview, hmap, hzero⟩ := hholds.finish hsize
        rw [← hbytes, ObjectView.parse_written] at hparse
        obtain rfl := Except.ok.inj hparse
        have hattributes : object.view.attributes = pushed.firsts :=
          object.attributes_view.trans hmap
        refine ⟨congrArg ObjectView.handle hview, hattributes, fun kind => ?_,
          ⟨object, hbytes, hzero⟩, hholds.length_finish⟩
        rw [ObjectView.attribute?, hattributes, Template.find?_firsts]
      · have hshort := length_le_length_encode pushed.firsts
        omega
  · rintro blob view hparse hnodup ⟨object, rfl, hzero⟩ hlength
    obtain rfl := Except.ok.inj ((ObjectView.parse_written object).symm.trans hparse)
    obtain ⟨builder, after, hnew, hextend, hfinish⟩ :=
      built_of_written object hnodup hzero hlength
    exact ⟨builder, after, hnew, afterCalls_pushes hextend, hfinish⟩

/-- A labelled key whose builder is also asked to append a second label. -/
theorem builder_view_inverse_labelled :
    let label : Bytes := [0x61, 0x65, 0x73]
    let calls : List BuilderCall := [.pushWord AttributeKind.keyType 0x1F,
      .extend [⟨AttributeKind.label, label⟩, ⟨AttributeKind.extractable, [0]⟩],
      .push AttributeKind.label [0xFF, 0xFF, 0xFF, 0xFF, 0xFF], .push AttributeKind.value []]
    headLength ≤ 128 ∧ ∃ builder after : ObjectBuilder 128, ∃ view,
      new 128 5 = .ok builder ∧ builder.afterCalls calls = some after ∧
      ObjectView.parse after.finish = .ok view ∧
      view.attribute? AttributeKind.label = some label ∧ after.finish.length = 64 := by
  intro label calls
  obtain ⟨builder, hnew, hall⟩ := (@builder_view_inverse 128 (by decide) 5).1
  obtain rfl : builder = ⟨openHead 5, 0⟩ := (Except.ok.inj hnew).symm
  obtain ⟨after, hcalls⟩ : ∃ after, @afterCalls 128 ⟨openHead 5, 0⟩ calls = some after :=
    Option.isSome_iff_exists.mp (by decide +kernel)
  obtain ⟨-, hshort, hobject, hview⟩ := hall calls after hcalls
  obtain ⟨view, hparse⟩ := hobject.mpr (hshort (by decide))
  obtain ⟨-, -, hfind, -, hlength⟩ := hview view hparse
  refine ⟨by decide, _, after, view, hnew, hcalls, hparse, ?_, hlength.trans (by decide +kernel)⟩
  rw [hfind]
  decide +kernel

/-- The head of an object and the two words of its only attribute, whose length is the greatest that
a word can say. The size of the body, which needs one bit more than a word has, is that of the two
words alone. -/
def overlongFront : Bytes :=
  [version, configuration, 8, 1, 5, AttributeKind.label, 0xFFFFFFFF].flatMap Bytes.ofWord

/-- No object begins like this, whatever follows. -/
theorem parse_overlongFront (rest : Bytes) :
    ObjectView.parse (overlongFront ++ rest) = .error .truncated := by
  have hword {i : Nat} (hi : i < 7) : ObjectView.headWord (overlongFront ++ rest) (4 * i) =
      .ok [version, configuration, 8, 1, 5, AttributeKind.label, 0xFFFFFFFF][i] := by
    unfold ObjectView.headWord overlongFront
    rw [Bytes.wordAt?_words hi rest]
  have hlength : overlongFront.length = headLength + (8 : UInt32).toNat := by decide
  have hroom : ¬(overlongFront ++ rest).length < headLength + (8 : UInt32).toNat := by
    rw [List.length_append, hlength]
    omega
  have hbody : ((overlongFront ++ rest).take (headLength + (8 : UInt32).toNat)).drop headLength =
      Bytes.ofWord AttributeKind.label ++ (Bytes.ofWord 0xFFFFFFFF ++ []) := by
    rw [← hlength, List.take_left]
    decide
  have hskip : skipAttributes (1 : UInt32).toNat (Bytes.ofWord AttributeKind.label ++
      (Bytes.ofWord 0xFFFFFFFF ++ [])) = .error .truncated :=
    skipAttributes_of_long (by decide : 8 < _) (by decide)
  have hfront : ObjectView.parseFront (overlongFront ++ rest) = .error .truncated := by
    unfold ObjectView.parseFront
    rw [hword (by decide : 0 < 7), hword (by decide : 1 < 7), hword (by decide : 2 < 7),
      hword (by decide : 3 < 7), hword (by decide : 4 < 7)]
    simp only [bind, Except.bind, List.getElem_cons_zero, List.getElem_cons_succ, ne_eq,
      not_true_eq_false, if_false, if_neg hroom, hbody, hskip]
  rw [ObjectView.parse, hfront]
  rfl

/-- A builder with room for it writes a value of the greatest length that a word can say, and what
it finishes begins like this. -/
theorem finish_of_longest {value : Bytes} (hvalue : value.length = 4294967295) :
    ∃ builder after : ObjectBuilder 4294967324, new 4294967324 5 = .ok builder ∧
      builder.afterCalls [.push AttributeKind.label value] = some after ∧
      after.finish.length = 4294967324 ∧ ∃ rest, after.finish = overlongFront ++ rest := by
  have hattribute : attributeLength value.length = 4294967304 := congrArg attributeLength hvalue
  obtain ⟨builder, hnew, hempty⟩ := @new_eq 4294967324 5 (by decide)
  have hbuffer : builder.buffer.length = headLength := hempty.length_buffer
  have hroom : value.length < UInt32.size ∧
      builder.buffer.length + attributeLength value.length ≤ 4294967324 := by
    rw [hbuffer, hattribute, hvalue]
    decide
  have haccepted : (builder.push AttributeKind.label value).1.isOk = true :=
    (push_effect hempty.isSized.fits ⟨AttributeKind.label, value⟩).isOk_iff.mpr (.inr hroom)
  obtain ⟨after, hpush⟩ :
      ∃ after, builder.push AttributeKind.label value = (.ok (), after) := by
    generalize builder.push AttributeKind.label value = pushed at haccepted
    obtain ⟨_ | _, after⟩ := pushed
    · cases haccepted
    · exact ⟨after, rfl⟩
  have hextend : builder.extend [⟨AttributeKind.label, value⟩] = (.ok (), after) :=
    extend_cons_eq_ok.mpr ⟨after, hpush, rfl⟩
  have hholds : after.Holds 5 [⟨AttributeKind.label, value⟩] := by
    rcases hempty.extended hextend with hholds | ⟨hmany, -⟩
    · exact hholds
    · exact absurd hmany (Nat.not_le.mpr (by decide : 1 < UInt32.size))
  have hcount : after.count = 1 := UInt32.toNat_inj.mp hholds.count
  have hlength : (encode [⟨AttributeKind.label, value⟩]).length = 4294967304 := by
    rw [length_encode]
    exact hattribute
  have hencode : encode [⟨AttributeKind.label, value⟩] = Bytes.ofWord AttributeKind.label ++
      (Bytes.ofWord 0xFFFFFFFF ++ (value ++ List.replicate (paddingLength value.length) 0)) := by
    have hword : UInt32.ofNat value.length = 0xFFFFFFFF := by
      rw [hvalue]
      decide
    rw [encode, List.flatMap_singleton, encodeAttribute, hword]
  refine ⟨builder, after, hnew, afterCalls_pushes hextend, ?_,
    value ++ List.replicate (paddingLength value.length) 0, ?_⟩
  · rw [hholds.length_finish, hlength]
    decide
  · have hsize : UInt32.ofNat 4294967304 = 8 := by decide
    rw [hholds.finish_eq, hcount, hlength, hsize, hencode]
    simp [overlongFront]

/-- An object whose size is not a word is written, and is then not read as an object. -/
theorem oversized_object_is_refused :
    let value : Bytes := List.replicate 4294967295 0
    ∃ builder after : ObjectBuilder 4294967324, new 4294967324 5 = .ok builder ∧
      builder.afterCalls [.push AttributeKind.label value] = some after ∧
      after.finish.length = 4294967324 ∧ after.finish.take 28 = overlongFront ∧
      ObjectView.parse after.finish = .error .truncated := by
  intro value
  obtain ⟨builder, after, hnew, hcalls, hlength, rest, hfinish⟩ :=
    finish_of_longest (show value.length = 4294967295 from List.length_replicate)
  refine ⟨builder, after, hnew, hcalls, hlength, ?_, ?_⟩
  · rw [hfinish]
    exact List.take_left' rfl
  · rw [hfinish]
    exact parse_overlongFront rest

end ObjectBuilder

end KeyEnclave

import KeyEnclave.Object.Builder
import KeyEnclave.Proofs.Object.Grammar
import Mathlib.Algebra.BigOperators.Group.Finset.Basic
import Mathlib.Algebra.GroupWithZero.Nat

/-!
# Objects that were built

A builder holds the head of an object and the attributes pushed so far, one for each type. What it
finishes is an object with exactly these attributes, and it fails only if they do not fit.

## Main definitions

* `Template.merge`, `Template.firsts` — the first attribute of each type.
* `Template.objectLength` — the length of the object made of a template.
* `ObjectBuilder.Holds` — a builder for a handle has written the given attributes.

## Main results

* `ObjectFormat.readAttributes_encode` — encoded attributes are read back.
* `ObjectBuilder.Holds.extend` — a template is written as long as it fits.
* `serialise_of_fits`, `serialise_of_not_fits` — the object made of templates, if it is not too long.
-/

namespace KeyEnclave

open ObjectFormat

namespace Template

/-- The types of the attributes. -/
def kinds (template : Template) : List AttributeKind := template.map Attribute.kind

/-- `template`, and those attributes of `other` whose types it lacks. -/
def merge (template other : Template) : Template :=
  other.foldl (fun merged a => if a.kind ∈ kinds merged then merged else merged ++ [a]) template

/-- The first attribute of each type. -/
def firsts (template : Template) : Template := merge [] template

/-- The length of the object that has the first attribute of each type. -/
def objectLength (template : Template) : Nat :=
  headLength + ∑ kind ∈ template.kinds.toFinset,
    attributeLength ((template.find? kind).getD []).length

variable {template other : Template} {a : Attribute} {kind : AttributeKind}

theorem find?_append : Template.find? (template ++ other) kind =
    (template.find? kind).or (other.find? kind) := by
  unfold find?
  rw [List.find?_append, Option.map_or]

theorem find?_eq_none : template.find? kind = none ↔ kind ∉ kinds template := by
  simp [find?, kinds]

theorem find?_of_mem (hnodup : (kinds template).Nodup) (hmem : a ∈ template) :
    template.find? a.kind = some a.value := by
  cases hfind : List.find? (fun b => b.kind == a.kind) template with
  | none => exact absurd (List.mem_map_of_mem hmem) (find?_eq_none.mp (by rw [find?, hfind]; rfl))
  | some found =>
    have hkind : found.kind = a.kind := by simpa using List.find?_some hfind
    have hfound : found = a :=
      List.inj_on_of_nodup_map hnodup (List.mem_of_find?_eq_some hfind) hmem hkind
    rw [find?, hfind, hfound]
    rfl

theorem merge_cons : merge template (a :: other) =
    merge (if a.kind ∈ kinds template then template else template ++ [a]) other := rfl

theorem merge_append {more : Template} :
    merge template (other ++ more) = merge (merge template other) more := List.foldl_append

theorem mem_kinds_merge : kind ∈ kinds (merge template other) ↔
    kind ∈ kinds template ∨ kind ∈ kinds other := by
  induction other generalizing template with
  | nil => simp [merge, kinds]
  | cons a other ih =>
    rw [merge_cons, ih]
    by_cases h : a.kind ∈ kinds template
    · rw [if_pos h]
      simp only [kinds, List.map_cons, List.mem_cons]
      refine ⟨Or.imp_right .inr, ?_⟩
      rintro (hmem | rfl | hmem)
      · exact .inl hmem
      · exact .inl h
      · exact .inr hmem
    · rw [if_neg h]
      simp [kinds, or_assoc]

theorem nodup_merge (h : (kinds template).Nodup) : (kinds (merge template other)).Nodup := by
  induction other generalizing template with
  | nil => exact h
  | cons a other ih =>
    rw [merge_cons]
    apply ih
    by_cases hmem : a.kind ∈ kinds template
    · rwa [if_pos hmem]
    · rw [if_neg hmem]
      simp only [kinds, List.map_append, List.map_cons, List.map_nil] at h hmem ⊢
      rw [← List.concat_eq_append]
      exact h.concat hmem

/-- Merging keeps the first attribute of each type. -/
theorem find?_merge : Template.find? (merge template other) kind =
    (template.find? kind).or (other.find? kind) := by
  induction other generalizing template with
  | nil => simp [merge, find?]
  | cons a other ih =>
    have hcons : Template.find? (a :: other) kind =
        (Template.find? [a] kind).or (Template.find? other kind) := @find?_append [a] other kind
    rw [merge_cons, ih, hcons, ← Option.or_assoc]
    by_cases h : a.kind ∈ kinds template
    · rw [if_pos h]
      congr 1
      cases hfind : template.find? kind with
      | some value => rfl
      | none =>
        have hne : a.kind ≠ kind := fun heq => find?_eq_none.mp hfind (heq ▸ h)
        simp [find?, hne]
    · rw [if_neg h, find?_append]

theorem find?_firsts (template : Template) (kind : AttributeKind) :
    template.firsts.find? kind = template.find? kind := find?_merge

theorem mem_kinds_firsts : kind ∈ kinds (firsts template) ↔ kind ∈ kinds template := by
  rw [firsts, mem_kinds_merge]
  simp [kinds]

theorem nodup_firsts (template : Template) : (kinds (firsts template)).Nodup :=
  nodup_merge List.nodup_nil

/-- The length of the object is that of its head and its attributes. -/
theorem objectLength_eq (template : Template) : template.objectLength =
    headLength + (template.firsts.map fun a => attributeLength a.value.length).sum := by
  have hkinds : template.kinds.toFinset = (kinds template.firsts).toFinset := by
    ext kind
    simp only [List.mem_toFinset, mem_kinds_firsts]
  rw [objectLength, hkinds, List.sum_toFinset _ (nodup_firsts template), kinds, List.map_map]
  congr 2
  refine List.map_congr_left fun a ha => ?_
  simp only [Function.comp_apply]
  rw [← find?_firsts, find?_of_mem (nodup_firsts template) ha, Option.getD_some]

/-- The length of an object does not depend on what its values say. -/
theorem objectLength_congr {template' : Template} (hkinds : template'.kinds = template.kinds)
    (hlengths : ∀ kind, (template'.find? kind).map List.length =
      (template.find? kind).map List.length) :
    template'.objectLength = template.objectLength := by
  unfold objectLength
  rw [hkinds]
  refine congrArg (ObjectFormat.headLength + ·) (Finset.sum_congr rfl fun kind _ => ?_)
  have hvalue (found : Option Bytes) : (found.getD []).length = (found.map List.length).getD 0 := by
    cases found <;> rfl
  rw [hvalue, hvalue, hlengths kind]

end Template

-- ═══════════════════════════════════════════════════════════════════════════
-- Encoded attributes
-- ═══════════════════════════════════════════════════════════════════════════

namespace ObjectFormat

/-- The bytes of an attribute. -/
def encodeAttribute (a : Attribute) : Bytes :=
  Bytes.ofWord a.kind ++ (Bytes.ofWord (UInt32.ofNat a.value.length) ++
    (a.value ++ List.replicate (paddingLength a.value.length) 0))

/-- The bytes of attributes one behind the other. -/
def encode (attributes : List Attribute) : Bytes := attributes.flatMap encodeAttribute

/-- The lengths of the values fit a word. -/
def HaveLengths (attributes : List Attribute) : Prop :=
  ∀ a ∈ attributes, a.value.length < UInt32.size

variable {a : Attribute} {attributes : List Attribute} {rest : Bytes}

@[simp] theorem length_encodeAttribute (a : Attribute) :
    (encodeAttribute a).length = attributeLength a.value.length := by
  simp only [encodeAttribute, List.length_append, Bytes.length_ofWord, List.length_replicate,
    paddingLength, attributeLength, attributeHeadLength]
  omega

theorem length_encode (attributes : List Attribute) : (encode attributes).length =
    (attributes.map fun a => attributeLength a.value.length).sum := by
  simp [encode, List.length_flatMap]

theorem eight_le_attributeLength (length : Nat) : 8 ≤ attributeLength length := by
  unfold attributeLength attributeHeadLength
  omega

theorem length_le_length_encode (attributes : List Attribute) :
    8 * attributes.length ≤ (encode attributes).length := by
  induction attributes with
  | nil => exact Nat.le_refl 0
  | cons a attributes ih =>
    have := eight_le_attributeLength a.value.length
    simp only [encode, List.flatMap_cons, List.length_append, length_encodeAttribute,
      List.length_cons] at ih ⊢
    omega

/-- Padded with zeros, a written attribute is the encoding of its attribute. -/
theorem Entry.bytes_of_isZeroPadded {entry : Entry} (h : entry.IsZeroPadded) :
    entry.bytes = encodeAttribute entry.toAttribute := by
  have hlength : entry.padding.length = paddingLength entry.value.length := by
    have hshort := entry.short
    have haligned := entry.aligned
    unfold paddingLength
    omega
  have hpadding : entry.padding = List.replicate (paddingLength entry.value.length) 0 :=
    List.eq_replicate_iff.mpr ⟨hlength, h⟩
  have hword : entry.length = UInt32.ofNat entry.value.length := by
    rw [entry.length_value, UInt32.ofNat_toNat]
  rw [Entry.bytes, hpadding, hword]
  rfl

/-- Encoded attributes are written attributes, padded with zeros. -/
theorem exists_entries (hlengths : HaveLengths attributes) :
    ∃ entries : List Entry, entries.map Entry.toAttribute = attributes ∧
      entries.flatMap Entry.bytes = encode attributes ∧ ∀ entry ∈ entries, entry.IsZeroPadded := by
  induction attributes with
  | nil => exact ⟨[], rfl, rfl, fun _ h => absurd h List.not_mem_nil⟩
  | cons a attributes ih =>
    obtain ⟨hlength, hrest⟩ := List.forall_mem_cons.mp hlengths
    obtain ⟨entries, hmap, hbytes, hzero⟩ := ih hrest
    let entry : Entry := {
      kind := a.kind
      length := UInt32.ofNat a.value.length
      value := a.value
      padding := List.replicate (paddingLength a.value.length) 0
      length_value := (UInt32.toNat_ofNat_of_lt' hlength).symm
      short := by
        rw [List.length_replicate]
        exact paddingLength_lt _
      aligned := by
        rw [List.length_replicate]
        exact four_dvd_add_paddingLength _ }
    have hentry : entry.IsZeroPadded := fun _ h => List.eq_of_mem_replicate h
    refine ⟨entry :: entries, congrArg _ hmap, ?_, List.forall_mem_cons.mpr ⟨hentry, hzero⟩⟩
    rw [List.flatMap_cons, hbytes, Entry.bytes_of_isZeroPadded hentry]
    rfl

/-- Encoded attributes are read back. -/
theorem readAttributes_encode (hlengths : HaveLengths attributes) :
    readAttributes attributes.length (encode attributes ++ rest) = attributes := by
  obtain ⟨entries, rfl, hbytes, -⟩ := exists_entries hlengths
  rw [← hbytes, List.length_map]
  exact readAttributes_entries entries rest

end ObjectFormat

-- ═══════════════════════════════════════════════════════════════════════════
-- Builders
-- ═══════════════════════════════════════════════════════════════════════════

namespace Template

theorem prefix_merge (template other : Template) : template <+: merge template other := by
  induction other generalizing template with
  | nil => exact List.prefix_rfl
  | cons a other ih =>
    rw [merge_cons]
    refine List.IsPrefix.trans ?_ (ih _)
    by_cases h : a.kind ∈ kinds template
    · rw [if_pos h]
    · rw [if_neg h]
      exact List.prefix_append _ _

end Template

namespace ObjectBuilder

variable {capacity : Nat} {builder : ObjectBuilder capacity} {handle : ObjectHandle}
  {written : List Attribute} {a : Attribute}

/-- The head of an object under construction. -/
def openHead (handle : ObjectHandle) : Bytes :=
  [version, configuration, 0, 0, handle].flatMap Bytes.ofWord

/-- The builder has written the head for `handle` and the given attributes. -/
structure Holds (builder : ObjectBuilder capacity) (handle : ObjectHandle)
    (written : List Attribute) : Prop where
  buffer : builder.buffer = openHead handle ++ encode written
  count : builder.count.toNat = written.length
  lengths : HaveLengths written
  fits : headLength + (encode written).length ≤ capacity

theorem length_openHead (handle : ObjectHandle) : (openHead handle).length = headLength := by
  simp [openHead, headLength]

theorem Holds.length_buffer (h : builder.Holds handle written) :
    builder.buffer.length = headLength + (encode written).length := by
  rw [h.buffer, List.length_append, length_openHead]

theorem Holds.attributes_eq (h : builder.Holds handle written) : builder.attributes = written := by
  have hread : readAttributes written.length (encode written ++ []) = written :=
    readAttributes_encode h.lengths
  rw [List.append_nil] at hread
  rw [attributes, h.count, h.buffer, ← length_openHead handle, List.drop_left, hread]

theorem new_eq (handle : ObjectHandle) (hcapacity : headLength ≤ capacity) :
    ∃ builder, new capacity handle = .ok builder ∧ builder.Holds handle [] := by
  refine ⟨⟨openHead handle, 0⟩, if_neg (Nat.not_lt.mpr hcapacity), ?_⟩
  exact ⟨(List.append_nil _).symm, rfl, fun _ hmem => absurd hmem List.not_mem_nil, hcapacity⟩

theorem appendPieces_of_fits {buffer : Bytes} {pieces : List Bytes}
    (hfits : buffer.length + pieces.flatten.length ≤ capacity) :
    appendPieces capacity buffer pieces = (.ok (), buffer ++ pieces.flatten) := by
  induction pieces generalizing buffer with
  | nil => simp [appendPieces]
  | cons piece pieces ih =>
    rw [List.flatten_cons, List.length_append] at hfits
    have hrest : (buffer ++ piece).length + pieces.flatten.length ≤ capacity := by
      rw [List.length_append]
      omega
    rw [appendPieces, if_pos (by omega), ih hrest, List.flatten_cons, List.append_assoc]

/-- Pieces that do not all fit are appended up to the first that does not. -/
theorem appendPieces_of_not_fits {buffer : Bytes} {pieces : List Bytes}
    (hbuffer : buffer.length ≤ capacity)
    (hlong : capacity < buffer.length + pieces.flatten.length) :
    ∃ front piece rest, pieces = front ++ piece :: rest ∧
      appendPieces capacity buffer pieces = (.error .tooLarge, buffer ++ front.flatten) ∧
      buffer.length + front.flatten.length ≤ capacity ∧
      capacity < buffer.length + front.flatten.length + piece.length := by
  induction pieces generalizing buffer with
  | nil =>
    rw [List.flatten_nil, List.length_nil] at hlong
    omega
  | cons piece pieces ih =>
    rw [List.flatten_cons, List.length_append] at hlong
    by_cases hpiece : buffer.length + piece.length ≤ capacity
    · have hmore : (buffer ++ piece).length = buffer.length + piece.length := List.length_append
      obtain ⟨front, next, rest, rfl, happend, hfits, hover⟩ :=
        @ih (buffer ++ piece) (by omega) (by omega)
      rw [hmore] at hfits hover
      refine ⟨piece :: front, next, rest, rfl, ?_, ?_, ?_⟩
      · rw [appendPieces, if_pos hpiece, happend, List.flatten_cons, List.append_assoc]
      · rw [List.flatten_cons, List.length_append]
        omega
      · rw [List.flatten_cons, List.length_append]
        omega
    · refine ⟨[], piece, pieces, rfl, ?_, by simpa, by simpa using hpiece⟩
      rw [appendPieces, if_neg hpiece, List.flatten_nil, List.append_nil]

/-- The pieces in which an attribute is written. -/
def piecesOf (a : Attribute) : List Bytes :=
  [Bytes.ofWord a.kind, Bytes.ofWord (UInt32.ofNat a.value.length), a.value,
    List.replicate (paddingLength a.value.length) 0]

theorem flatten_piecesOf (a : Attribute) : (piecesOf a).flatten = encodeAttribute a := by
  simp [piecesOf, encodeAttribute]

theorem encode_concat (written : List Attribute) (a : Attribute) :
    encode (written ++ [a]) = encode written ++ encodeAttribute a := by
  simp [encode]

/-- What is left to push, once the type is new and the length fits a word, is to append the pieces. -/
theorem push_of_appendPieces {buffer : Bytes}
    (hnew : ¬builder.attributes.any (·.kind == a.kind) = true)
    (hvalue : ¬UInt32.size ≤ a.value.length)
    (happend : appendPieces capacity builder.buffer (piecesOf a) = (.ok (), buffer)) :
    builder.push a.kind a.value = (.ok (), ⟨buffer, builder.count + 1⟩) := by
  rw [piecesOf] at happend
  rw [push, if_neg hnew, if_neg hvalue]
  simp only [happend]

theorem push_of_appendPieces_error {buffer : Bytes} {e : ObjectError}
    (hnew : ¬builder.attributes.any (·.kind == a.kind) = true)
    (hvalue : ¬UInt32.size ≤ a.value.length)
    (happend : appendPieces capacity builder.buffer (piecesOf a) = (.error e, buffer)) :
    builder.push a.kind a.value = (.error e, ⟨buffer, builder.count⟩) := by
  rw [piecesOf] at happend
  rw [push, if_neg hnew, if_neg hvalue]
  simp only [happend]

theorem Holds.any_attributes (h : builder.Holds handle written) :
    builder.attributes.any (·.kind == a.kind) = true ↔ a.kind ∈ Template.kinds written := by
  rw [h.attributes_eq]
  simp [Template.kinds]

theorem Holds.push_of_mem (h : builder.Holds handle written) (hmem : a.kind ∈ Template.kinds written) :
    builder.push a.kind a.value = (.ok (), builder) := by
  rw [push, if_pos (h.any_attributes.mpr hmem)]

/-- Written behind the others, an attribute is one more that the builder holds. -/
theorem Holds.concat (h : builder.Holds handle written) (hvalue : a.value.length < UInt32.size)
    (hcount : written.length + 1 < UInt32.size)
    (hfits : headLength + (encode (written ++ [a])).length ≤ capacity) :
    (⟨builder.buffer ++ encodeAttribute a, builder.count + 1⟩ : ObjectBuilder capacity).Holds handle
      (written ++ [a]) := by
  refine ⟨?_, ?_, ?_, hfits⟩
  · rw [h.buffer, encode_concat, List.append_assoc]
  · rw [UInt32.toNat_add, h.count, List.length_append, List.length_singleton]
    exact Nat.mod_eq_of_lt hcount
  · intro b hb
    rcases List.mem_append.mp hb with hb | hb
    · exact h.lengths b hb
    · rwa [List.mem_singleton.mp hb]

/-- So it is if the attributes are no longer than a word can say. -/
theorem Holds.append (h : builder.Holds handle written)
    (hsize : (encode (written ++ [a])).length < UInt32.size)
    (hfits : headLength + (encode (written ++ [a])).length ≤ capacity) :
    (⟨builder.buffer ++ encodeAttribute a, builder.count + 1⟩ : ObjectBuilder capacity).Holds handle
      (written ++ [a]) := by
  have hcount := length_le_length_encode (written ++ [a])
  rw [List.length_append, List.length_singleton] at hcount
  refine h.concat ?_ (by omega) hfits
  rw [encode_concat, List.length_append, length_encodeAttribute, attributeLength_eq] at hsize
  omega

theorem Holds.push_of_fits (h : builder.Holds handle written)
    (hnew : a.kind ∉ Template.kinds written)
    (hsize : (encode (written ++ [a])).length < UInt32.size)
    (hfits : headLength + (encode (written ++ [a])).length ≤ capacity) :
    ∃ after, builder.push a.kind a.value = (.ok (), after) ∧ after.Holds handle (written ++ [a]) := by
  have hafter := h.append hsize hfits
  have hlength : builder.buffer.length + (encodeAttribute a).length ≤ capacity := by
    rw [encode_concat, List.length_append] at hfits
    rw [h.length_buffer]
    omega
  have hvalue : a.value.length < UInt32.size := hafter.lengths a (by simp)
  have happend : appendPieces capacity builder.buffer (piecesOf a) =
      (.ok (), builder.buffer ++ encodeAttribute a) := by
    rw [← flatten_piecesOf]
    exact appendPieces_of_fits (by rwa [flatten_piecesOf])
  exact ⟨_, push_of_appendPieces (fun hany => hnew (h.any_attributes.mp hany))
    (Nat.not_le.mpr hvalue) happend, hafter⟩

theorem Holds.push_of_not_fits (h : builder.Holds handle written)
    (hnew : a.kind ∉ Template.kinds written)
    (hlong : capacity < headLength + (encode (written ++ [a])).length) :
    ∃ after, builder.push a.kind a.value = (.error .tooLarge, after) := by
  have hany : ¬builder.attributes.any (·.kind == a.kind) = true :=
    fun hany => hnew (h.any_attributes.mp hany)
  by_cases hvalue : UInt32.size ≤ a.value.length
  · exact ⟨builder, by rw [push, if_neg hany, if_pos hvalue]⟩
  · have hfits : builder.buffer.length ≤ capacity := by
      rw [h.length_buffer]
      exact h.fits
    obtain ⟨front, -, -, -, happend, -⟩ := appendPieces_of_not_fits hfits
      (show capacity < builder.buffer.length + (piecesOf a).flatten.length by
        rw [flatten_piecesOf, h.length_buffer]
        rw [encode_concat, List.length_append] at hlong
        omega)
    exact ⟨_, push_of_appendPieces_error hany hvalue happend⟩

/-- A template is written, the first attribute of each type, as long as it fits. What fits has its
lengths and its number of attributes in words, whether the buffer is no longer than a word can say
or the attributes are not. -/
theorem Holds.extend (h : builder.Holds handle written) (template : Template)
    (hsize : capacity < headLength + UInt32.size ∨
      (encode (Template.merge written template)).length < UInt32.size) :
    (∃ after, builder.extend template = (.ok (), after) ∧
        after.Holds handle (Template.merge written template)) ∨
      capacity < headLength + (encode (Template.merge written template)).length ∧
        ∃ after, builder.extend template = (.error .tooLarge, after) := by
  induction template generalizing builder written with
  | nil => exact .inl ⟨builder, rfl, h⟩
  | cons a template ih =>
    rw [Template.merge_cons] at hsize ⊢
    rw [ObjectBuilder.extend]
    by_cases hmem : a.kind ∈ Template.kinds written
    · rw [if_pos hmem] at hsize ⊢
      rw [h.push_of_mem hmem]
      exact ih h hsize
    · rw [if_neg hmem] at hsize ⊢
      have hprefix := (Template.prefix_merge (written ++ [a]) template).flatMap encodeAttribute
      have hle : (encode (written ++ [a])).length ≤
          (encode (Template.merge (written ++ [a]) template)).length := hprefix.length_le
      by_cases hfits : headLength + (encode (written ++ [a])).length ≤ capacity
      · obtain ⟨after, hpush, hafter⟩ := h.push_of_fits hmem (by omega) hfits
        rw [hpush]
        exact ih hafter hsize
      · rw [Nat.not_le] at hfits
        obtain ⟨after, hpush⟩ := h.push_of_not_fits hmem hfits
        refine .inr ⟨Nat.lt_of_lt_of_le hfits (Nat.add_le_add_left hle _), after, ?_⟩
        rw [hpush]

/-- Finishing fills in the sizes, whatever stands behind the head. -/
theorem finish_eq {body : Bytes} (hbody : builder.buffer = openHead handle ++ body) :
    builder.finish =
      [version, configuration, UInt32.ofNat body.length, builder.count,
        handle].flatMap Bytes.ofWord ++ body := by
  have hbuffer : builder.buffer = (Bytes.ofWord version ++ Bytes.ofWord configuration) ++
      ((Bytes.ofWord 0 ++ Bytes.ofWord 0) ++ (Bytes.ofWord handle ++ body)) := by
    simp [hbody, openHead]
  have hsize : builder.buffer.length - headLength = body.length := by
    rw [hbody, List.length_append, length_openHead, Nat.add_sub_cancel_left]
  have hhead : (Bytes.ofWord version ++ Bytes.ofWord configuration).length = 8 := by simp
  have htake : builder.buffer.take 8 = Bytes.ofWord version ++ Bytes.ofWord configuration := by
    rw [hbuffer, ← hhead, List.take_left]
  have hsizes : ((Bytes.ofWord version ++ Bytes.ofWord configuration) ++
      (Bytes.ofWord 0 ++ Bytes.ofWord 0)).length = 16 := by simp
  have hdrop : builder.buffer.drop 16 = Bytes.ofWord handle ++ body := by
    rw [hbuffer, ← List.append_assoc, ← hsizes, List.drop_left]
  rw [ObjectBuilder.finish, hsize, htake, hdrop]
  simp

theorem Holds.finish_eq (h : builder.Holds handle written) : builder.finish =
    [version, configuration, UInt32.ofNat (encode written).length, builder.count,
      handle].flatMap Bytes.ofWord ++ encode written := ObjectBuilder.finish_eq h.buffer

theorem Holds.length_finish (h : builder.Holds handle written) :
    builder.finish.length = headLength + (encode written).length := by
  rw [h.finish_eq, List.length_append]
  simp [headLength]

theorem Holds.drop_finish (h : builder.Holds handle written) :
    builder.finish.drop headLength = encode written := by
  rw [h.finish_eq]
  exact List.drop_left' (by simp [headLength])

/-- What a builder finishes is the object with the attributes it has written. -/
theorem Holds.finish (h : builder.Holds handle written)
    (hsize : (encode written).length < UInt32.size) :
    ∃ object : Written, object.bytes = builder.finish ∧
      object.view = ⟨handle, builder.count, encode written⟩ ∧
      object.entries.map Entry.toAttribute = written ∧
      ∀ entry ∈ object.entries, entry.IsZeroPadded := by
  obtain ⟨entries, hmap, hbytes, hzero⟩ := exists_entries h.lengths
  have hlength : (UInt32.ofNat (encode written).length).toNat = (encode written).length :=
    UInt32.toNat_ofNat_of_lt' hsize
  rw [h.finish_eq]
  generalize UInt32.ofNat (encode written).length = size at hlength
  refine ⟨{
    size := size
    count := builder.count
    handle := handle
    entries := entries
    size_eq := by rw [hbytes, hlength]
    count_eq := by rw [h.count, ← hmap, List.length_map] }, ?_, ?_, hmap, hzero⟩
  · exact congrArg _ hbytes
  · exact congrArg (ObjectView.mk handle builder.count) hbytes

/-- What a builder finishes is read as the object with the attributes it has written. -/
theorem Holds.parse_finish (h : builder.Holds handle written)
    (hsize : (encode written).length < UInt32.size) :
    ∃ view, ObjectView.parse builder.finish = .ok view ∧ view.handle = handle ∧
      view.attributes = written := by
  obtain ⟨object, hbytes, hview, hmap, -⟩ := h.finish hsize
  refine ⟨object.view, ?_, congrArg ObjectView.handle hview, object.attributes_view.trans hmap⟩
  rw [← hbytes]
  exact ObjectView.parse_written object

end ObjectBuilder

section Serialise

variable {capacity : Nat} {handle : ObjectHandle} {parts : List Template}

/-- The object made of templates has the first attribute of each type, and just the length that
these attributes need. -/
theorem serialise_of_fits (hcapacity : capacity < UInt32.size)
    (hfits : Template.objectLength parts.flatten ≤ capacity) :
    ∃ blob view, serialise capacity handle parts = .ok blob ∧
      ObjectView.parse? blob = some view ∧ view.handle = handle ∧
      view.attributes = Template.firsts parts.flatten ∧
      blob.length = Template.objectLength parts.flatten := by
  rw [Template.objectLength_eq, ← length_encode] at hfits ⊢
  obtain ⟨builder, hnew, hholds⟩ := @ObjectBuilder.new_eq capacity handle (by omega)
  rcases hholds.extend parts.flatten (.inl (Nat.lt_add_left _ hcapacity)) with
    ⟨after, hextend, hafter⟩ | ⟨hlong, -⟩
  · have hsize : (encode (Template.firsts parts.flatten)).length < UInt32.size := by omega
    obtain ⟨view, hparse, hhandle, hattributes⟩ := hafter.parse_finish hsize
    refine ⟨after.finish, view, ?_, ?_, hhandle, hattributes, hafter.length_finish⟩
    · simp only [serialise, hnew, bind, Except.bind, hextend]
      rfl
    · rw [ObjectView.parse?, hparse]
      rfl
  · exact absurd hfits (Nat.not_le.mpr hlong)

/-- An object that is too long is refused. -/
theorem serialise_of_not_fits (hcapacity : capacity < UInt32.size)
    (hlong : capacity < Template.objectLength parts.flatten) :
    serialise capacity handle parts = .error .tooLarge := by
  rw [Template.objectLength_eq, ← length_encode] at hlong
  by_cases hhead : headLength ≤ capacity
  · obtain ⟨builder, hnew, hholds⟩ := ObjectBuilder.new_eq handle hhead
    rcases hholds.extend parts.flatten (.inl (Nat.lt_add_left _ hcapacity)) with
      ⟨after, -, hafter⟩ | ⟨-, after, hextend⟩
    · exact absurd hafter.fits (Nat.not_le.mpr hlong)
    · simp only [serialise, hnew, bind, Except.bind, hextend]
      rfl
  · rw [Nat.not_le] at hhead
    simp only [serialise, ObjectBuilder.new, if_pos hhead, bind, Except.bind]

/-- What was serialised is an object with the first attribute of each type. -/
theorem of_serialise_eq_ok (hcapacity : capacity < UInt32.size) {blob : Bytes}
    (h : serialise capacity handle parts = .ok blob) :
    Template.objectLength parts.flatten ≤ capacity ∧
      blob.length = Template.objectLength parts.flatten ∧
      ∃ view, ObjectView.parse? blob = some view ∧ view.handle = handle ∧
        view.attributes = Template.firsts parts.flatten := by
  by_cases hfits : Template.objectLength parts.flatten ≤ capacity
  · obtain ⟨found, view, hfound, hparse, hhandle, hattributes, hlength⟩ :=
      @serialise_of_fits capacity handle parts hcapacity hfits
    obtain rfl : found = blob := Except.ok.inj (hfound.symm.trans h)
    exact ⟨hfits, hlength, view, hparse, hhandle, hattributes⟩
  · rw [serialise_of_not_fits hcapacity (Nat.not_le.mp hfits)] at h
    cases h

end Serialise

end KeyEnclave

import KeyEnclave.Cryptoki

/-!
# Attributes and templates

## Main definitions

* `Attribute` — a type and a value.
* `Template` — a list of attributes, as callers pass it; `Template.find?` reads its first value of
  a type.
-/

namespace KeyEnclave

/-- An attribute of an object or of a template. -/
structure Attribute where
  kind : AttributeKind
  value : Bytes
  deriving DecidableEq, Repr, Inhabited

/-- Attributes in the order of the caller. -/
abbrev Template := List Attribute

/-- The value of the first attribute of a type. -/
def Template.find? (template : Template) (kind : AttributeKind) : Option Bytes :=
  (List.find? (fun a => a.kind == kind) template).map Attribute.value

/-- Whether a value is a flag that is set: its first byte is not zero. -/
def Attribute.isSet (value : Bytes) : Option Bool := value.head?.map (· != 0)

end KeyEnclave

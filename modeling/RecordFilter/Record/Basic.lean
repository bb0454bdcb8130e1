import RecordFilter.Value.Basic

set_option autoImplicit false

namespace RecordFilter

/-- A path inside the value that is looked at; the empty path is that value itself. -/
abbrev FieldRef := List String

class HasFields (α : Type) where
  fields : α → Record

instance : HasFields Record := ⟨id⟩

def scope {α : Type} [HasFields α] (a : α) : Value := .record (HasFields.fields a)

end RecordFilter

import RecordFilter.Spec.Vocabulary
import RecordFilter.Text.Lowercase

set_option autoImplicit false

namespace RecordFilter

inductive FieldType where
  | scalar (type : DataType)
  | record (fields : List (String × FieldType))
  | list (element : FieldType)

abbrev Fields := List (String × FieldType)

structure Schema where
  name : String
  fields : Fields
  /-- The path of the field that identifies a record. -/
  key : Option String

namespace FieldType

def isCollection : FieldType → Bool
  | list _ => true
  | _ => false

def peel : FieldType → Nat × FieldType
  | list element => ((peel element).1 + 1, (peel element).2)
  | t => (0, t)

end FieldType

namespace Fields

def equalLowercased (s t : String) : Bool := lowercase s == lowercase t

/-- The place of the field called `name`: an exact match wins over one that ignores the case of ASCII letters, that
one over one that ignores all case, and of equally good matches the first. -/
def indexOf? (fields : Fields) (name : String) : Option Nat :=
  (fields.findIdx? fun f => f.1 == name).or
    ((fields.findIdx? fun f => Text.equalIgnoringAsciiCase f.1.toList name.toList).or
      (fields.findIdx? fun f => equalLowercased f.1 name))

def lookup? (fields : Fields) (name : String) : Option (String × FieldType) :=
  (fields.indexOf? name).bind fun i => fields[i]?

end Fields

end RecordFilter

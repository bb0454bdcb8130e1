import RecordFilter.Number.Shortest
import RecordFilter.Text.Listing
import RecordFilter.Value.Basic

set_option autoImplicit false

namespace RecordFilter.Value

def labelled (label : String) (contents : List Char) : List Char := label.toList ++ '(' :: contents ++ [')']

mutual

def listed : Value → List Char
  | null => "Null".toList
  | text s => labelled "Text" (Text.listed s.toList)
  | integer i => labelled "Integer" i.text
  | number x => labelled "Number" x.text
  | bool b => labelled "Bool" (if b then "true".toList else "false".toList)
  | guid g => labelled "Guid" g.text
  | dateTime t => labelled "DateTime" t.text
  | date d => labelled "Date" d.text
  | record _ => labelled "Record" "..".toList
  | list [] => labelled "List" "[]".toList
  | list (v :: vs) => labelled "List" ('[' :: listed v ++ listedRest vs)

def listedRest : List Value → List Char
  | [] => [']']
  | v :: vs => ',' :: ' ' :: listed v ++ listedRest vs

end

def listing (v : Value) : String := String.ofList v.listed

end RecordFilter.Value

import RecordFilter.Error
import RecordFilter.Schema
import RecordFilter.Text.Blank
import RecordFilter.Text.Split

set_option autoImplicit false

/-!
# Field paths

A path names a scalar field by the fields on the way to it, with dots between them. The way may lead through
collections: the path splits into *hops*, each of which ends at a collection, and a leaf path inside its elements.
-/

namespace RecordFilter

structure PathSegment where
  /-- The field's name as declared. -/
  name : String
  /-- How many levels of lists the field has around its elements. -/
  depth : Nat
deriving DecidableEq

/-- A run of fields that ends at a collection of `depth` levels. -/
structure Hop where
  path : List String
  depth : Nat
deriving DecidableEq

structure ResolvedPath where
  segments : List PathSegment
  leaf : DataType
deriving DecidableEq

namespace ResolvedPath

def names (p : ResolvedPath) : List String := p.segments.map (·.name)

def canonical (p : ResolvedPath) : String := String.intercalate "." p.names

def isExistential (p : ResolvedPath) : Bool := p.segments.any fun s => decide (0 < s.depth)

/-- Splits segments into hops and the leaf path; `pending` holds the names since the last hop. -/
def splitFrom (pending : List String) : List PathSegment → List Hop × List String
  | [] => ([], pending)
  | s :: rest =>
    if s.depth = 0 then splitFrom (pending ++ [s.name]) rest
    else
      let (hops, leaf) := splitFrom [] rest
      (⟨pending ++ [s.name], s.depth⟩ :: hops, leaf)

/-- The hops, outermost first, and the path inside the innermost elements, which is empty if they are the leaf. -/
def split (p : ResolvedPath) : List Hop × List String := splitFrom [] p.segments

end ResolvedPath

def maxPathLength : Nat := 32

def pathNames (path : String) : List String :=
  (((Text.split '.' path.toList).map Text.trim).filter fun part => !part.isEmpty).map String.ofList

namespace Fields

/-- Follows names through the fields: all but the last lead to records and the last to a scalar. -/
def follow? (fields : Fields) : List String → Option ResolvedPath
  | [] => none
  | name :: rest =>
    match fields.lookup? name with
    | none => none
    | some (declared, type) =>
      let segment : PathSegment := ⟨declared, type.peel.1⟩
      match rest, type.peel.2 with
      | [], .scalar leaf => some ⟨[segment], leaf⟩
      | _ :: _, .record inner => (follow? inner rest).map fun p => ⟨segment :: p.segments, p.leaf⟩
      | _, _ => none

end Fields

namespace Schema

def resolve (schema : Schema) (path : String) : Except FilterError ResolvedPath :=
  let names := pathNames path
  if maxPathLength < names.length then .error (.invalidField path)
  else
    match schema.fields.follow? names with
    | some p => .ok p
    | none => .error (.invalidField path)

end Schema

end RecordFilter

import Casebook.Number.Double

/-!
# Typed values

The values that a test passes to a function or expects from it.  Integers and floating-point
numbers are different kinds of value, and so is the announcement that a call fails.

Main definitions:

- {lit}`Value`: typed values.
- {lit}`Kind`: the kind of a value, whatever it contains.
- {lit}`Value.same`: equality of values, for which the order of map entries does not matter.
-/

namespace Casebook

/-- A typed value. -/
inductive Value where
  | null
  | bool (b : Bool)
  | int (z : Int)
  | double (d : Double)
  | string (s : String)
  | array (items : List Value)
  | map (entries : List (String × Value))
  /-- The call fails, and this is the message.  Only an expected value as a whole can be one. -/
  | error (message : String)
  deriving Repr, Inhabited

/-- The kind of a value.  Kinds say nothing about the contents of arrays and maps. -/
inductive Kind where
  | null
  | bool
  | int
  | double
  | string
  | array
  | map
  /-- Nothing definite is known. -/
  | unknown
  deriving DecidableEq, Repr, Inhabited

namespace Kind

/-- The word for a kind. -/
def name : Kind → String
  | .null => "Null"
  | .bool => "Bool"
  | .int => "Int"
  | .double => "Double"
  | .string => "String"
  | .array => "Array"
  | .map => "Map"
  | .unknown => "Unknown"

/-- All kinds. -/
def all : List Kind :=
  [.null, .bool, .int, .double, .string, .array, .map, .unknown]

/-- Every kind is listed. -/
theorem mem_all (k : Kind) : k ∈ all := by
  cases k <;> decide

end Kind

namespace Value

/-- The kind of a value.  That a call fails tells nothing about what it returns otherwise. -/
def kind : Value → Kind
  | .null => .null
  | .bool _ => .bool
  | .int _ => .int
  | .double _ => .double
  | .string _ => .string
  | .array _ => .array
  | .map _ => .map
  | .error _ => .unknown

/-- The value announces a failing call. -/
def isError : Value → Bool
  | .error _ => true
  | _ => false

mutual

/-- Two values are equal: maps may list their entries in different orders, and the two zeros are
one number. -/
def same : Value → Value → Bool
  | .null, .null => true
  | .bool a, .bool b => a == b
  | .int a, .int b => a == b
  | .double a, .double b => a.same b
  | .string a, .string b => a == b
  | .array a, .array b => sameItems a b
  | .map a, .map b => a.length == b.length && sameEntries a b
  | .error a, .error b => a == b
  | _, _ => false

/-- Two lists of items are equal item by item. -/
def sameItems : List Value → List Value → Bool
  | [], [] => true
  | a :: as, b :: bs => same a b && sameItems as bs
  | _, _ => false

/-- Every one of some entries is found, with an equal value, among others. -/
def sameEntries : List (String × Value) → List (String × Value) → Bool
  | [], _ => true
  | (key, a) :: entries, others =>
      (match others.lookup key with
        | some b => same a b
        | none => false) && sameEntries entries others

end

end Value

end Casebook

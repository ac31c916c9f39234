import Rulebook.FieldPath
import Rulebook.Number

/-
  Values, and the environments that hold them by name.

  Key definitions include:
    * `Value`
    * `Environment`
    * `Value.same`
    * `Environment.find`
    * `Environment.put`
    * `Environment.get`
    * `Environment.set`
    * `Environment.leaves`
-/

namespace Rulebook

------------------------------------------------------------
-- Values And Environments
------------------------------------------------------------

mutual

/-
  A value.  What is not there is `null`; fields with a common
  first segment are gathered in a mapping.
-/
inductive Value where
  | null
  | boolean (b : Bool)
  | number (n : Number)
  | string (s : String)
  | mapping (fields : Environment)

/-
  The fields of a mapping, or of a whole test, in the order of
  their keys.
-/
inductive Environment where
  | empty
  | field
      (key : String)
      (value : Value)
      (rest : Environment)

end

mutual

/-
  Equality of values.  Numbers are compared by their value
  alone, however they were written.
-/
def Value.same : Value → Value → Bool
  | .null, .null => true
  | .boolean a, .boolean b => a == b
  | .number a, .number b => a == b
  | .string a, .string b => a == b
  | .mapping a, .mapping b => a.same b
  | _, _ => false

/- Equality of environments, field by field. -/
def Environment.same : Environment → Environment → Bool
  | .empty, .empty => true
  | .field key value rest, .field key' value' rest' =>
      key == key' && value.same value' && rest.same rest'
  | _, _ => false

end

instance : BEq Value :=
  ⟨Value.same⟩

instance : BEq Environment :=
  ⟨Environment.same⟩

/- A number that comes from a computation, as a value. -/
def Value.computed (value : Binary64) : Value :=
  .number (.computed value)

/- The fields of a value; only a mapping has some. -/
def Value.fields : Value → Environment
  | .mapping fields => fields
  | _ => .empty

namespace Environment

------------------------------------------------------------
-- Fields Of One Level
------------------------------------------------------------

/- The fields as pairs. -/
def toList : Environment → List (String × Value)
  | .empty => []
  | .field key value rest => (key, value) :: rest.toList

/- The keys. -/
def keys (env : Environment) : List String :=
  env.toList.map (·.1)

/- The number of fields. -/
def size (env : Environment) : Nat :=
  env.toList.length

/- Without any field. -/
def isEmpty : Environment → Bool
  | .empty => true
  | .field _ _ _ => false

/- The value of a key; a missing one is null. -/
def find (key : String) : Environment → Value
  | .empty => .null
  | .field key' value rest =>
      if key = key' then value else rest.find key

/- Give a key a value, at the place that keeps keys sorted. -/
def put
    (key : String)
    (value : Value) : Environment → Environment
  | .empty => .field key value .empty
  | .field key' value' rest =>
      if key = key' then .field key value rest
      else if key < key' then
        .field key value (.field key' value' rest)
      else .field key' value' (rest.put key value)

------------------------------------------------------------
-- Paths
------------------------------------------------------------

/-
  The value that the segments of a path lead to.  A segment
  that is no mapping has no fields.
-/
def read : List String → Environment → Value
  | [], env => .mapping env
  | [key], env => env.find key
  | key :: segments, env => read segments (env.find key).fields

/-
  Write a value where the segments of a path lead to.  What is
  no mapping on the way becomes one.
-/
def write
    (value : Value) : List String → Environment → Environment
  | [], env => env
  | [key], env => env.put key value
  | key :: segments, env =>
      env.put key
        (.mapping (write value segments (env.find key).fields))

/- The value at a path. -/
def get
    (env : Environment)
    (path : FieldPath) : Value :=
  read path.segments env

/- The environment with a value written at a path. -/
def set
    (env : Environment)
    (path : FieldPath)
    (value : Value) : Environment :=
  write value path.segments env

/- The environment with several values written in turn. -/
def ofList
    (fields : List (FieldPath × Value)) : Environment :=
  fields.foldl (fun env field => env.set field.1 field.2)
    .empty

end Environment

------------------------------------------------------------
-- Leaves
------------------------------------------------------------

mutual

/- The leaves of a value, with the segments that lead there. -/
def Value.leaves : Value → List (List String × Value)
  | .mapping fields =>
      if fields.isEmpty then [([], .mapping fields)]
      else fields.leaves
  | value => [([], value)]

/-
  The leaves of an environment.  A mapping is a leaf only if it
  is empty.
-/
def Environment.leaves :
    Environment → List (List String × Value)
  | .empty => []
  | .field key value rest =>
      value.leaves.map (fun leaf => (key :: leaf.1, leaf.2)) ++
        rest.leaves

end

end Rulebook

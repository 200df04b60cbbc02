/-!
Contract: fields of a record by name.

Owns: the rule by which readers of named fields pick one: a field given twice is
refused, a field not given is told apart from a field that is, and fields nobody
asks for are passed over.
-/

namespace ResultCache

namespace Codec

namespace Record

variable {Held : Type}

/-- What stands behind a name: refused when the name stands twice, and `some none`
when it does not stand at all. -/
def field? (fields : List (String × Held)) (name : String) : Option (Option Held) :=
  match fields.filter fun field => field.1 = name with
  | [] => some none
  | [(_, held)] => some (some held)
  | _ => none

/-- What stands behind a name that has to be given. -/
def required? (fields : List (String × Held)) (name : String) : Option Held :=
  (field? fields name).join

end Record

end Codec

end ResultCache

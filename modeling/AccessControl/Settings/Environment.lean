import AccessControl.Action

/-!
# The environment of a process

The environment is a list of byte strings of the form `NAME=VALUE`. A variable is found by its name
and the sign behind it, so that the name ends at the sign the search asks for. A value that is not
UTF-8 is set but holds no text.
-/

namespace AccessControl

/-- The environment of a process. -/
structure Environment where
  entries : List (List UInt8)

namespace Environment

/-- The UTF-8 bytes of a text. -/
def bytes (text : String) : List UInt8 :=
  text.toUTF8.toList

/-- The environment in which the given names have the given values. -/
def ofList (entries : List (String × List UInt8)) : Environment :=
  ⟨entries.map fun (name, value) => bytes name ++ bytes "=" ++ value⟩

/-- The text that bytes hold, if they are UTF-8. -/
def textOf? (value : List UInt8) : Option String :=
  String.fromUTF8? ⟨value.toArray⟩

/-- The value of a variable, if it is set. -/
def value? (env : Environment) (name : String) : Option (List UInt8) :=
  let start := bytes name ++ bytes "="
  if name = "" ∨ name.toList.contains '\x00' then none
  else (env.entries.find? (start.isPrefixOf ·)).map (·.drop start.length)

/-- The text of a variable, if it is set and holds text. -/
def text? (env : Environment) (name : String) : Option String :=
  (env.value? name).bind textOf?

end Environment

end AccessControl

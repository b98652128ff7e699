/-!
# Variables

Named texts that a program is started with.

* `Variables.find?`: the text of a name.
* `Variables.afterName?`: the same, when anything may be asked for as a name.
* `Variables.define`: gives a text to a name that has none.
-/

namespace OutboxProvisioning

/-- Names with their texts. -/
abbrev Variables := List (String × String)

namespace Variables

/-- The text of a name. -/
def find? (vs : Variables) (name : String) : Option String :=
  (List.find? (fun v => v.1 = name) vs).map Prod.snd

/-- What follows `name=` in one of the assignments `n=text`. A name with an equals sign in it is
found where a shorter name has a text that goes on like it. -/
def afterName? (vs : Variables) (name : String) : Option String :=
  let wanted := name.toList ++ ['=']
  if name.isEmpty then none
  else vs.findSome? fun (n, text) =>
    let written := n.toList ++ '=' :: text.toList
    if wanted.isPrefixOf written then some (String.ofList (written.drop wanted.length)) else none

/-- Gives a text to a name that has none. -/
def define (vs : Variables) (name value : String) : Variables :=
  if (vs.find? name).isSome then vs else vs ++ [(name, value)]

end Variables

end OutboxProvisioning

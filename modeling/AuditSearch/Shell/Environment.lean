/-!
# Environment variables

The variables that a program sees, with those that were set last in front.
-/

namespace AuditSearch.Shell

abbrev Environment := List (String × String)

namespace Environment

/-- The value of `name`, which is what follows the name and an equals sign in a variable written as
one text. So a name may go on into a value: in `A=B=c` the value of `A=B` is `c`. -/
def get? (environment : Environment) (name : String) : Option String :=
  environment.findSome? fun (other, value) =>
    String.ofList <$> (name.toList ++ ['=']).isPrefixOf? (other.toList ++ '=' :: value.toList)

/-- A switch is on unless its value is `0`. -/
def switch? (environment : Environment) (name : String) : Option Bool :=
  (environment.get? name).map (· ≠ "0")

/-- Whether output is coloured. `CLICOLOR_FORCE` turns colours on, and without it `NO_COLOR` turns
them off, whatever its value; otherwise a terminal gets them unless `CLICOLOR` is off. -/
def wantsColour (environment : Environment) (terminal : Bool) : Bool :=
  if environment.switch? "CLICOLOR_FORCE" = some true then true
  else if (environment.get? "NO_COLOR").isSome then false
  else terminal && (environment.switch? "CLICOLOR").getD true

end Environment

end AuditSearch.Shell

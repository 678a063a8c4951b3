/-!
# Settings — the environment

The environment is a list of named texts. A name stands in it at most
once; adding variables from a file never changes one that is set.
-/

namespace Storefront

/-- The variables a program starts with. -/
abbrev Environment := List (String × String)

namespace Environment

/-- The value of a variable. -/
def get? (env : Environment) (name : String) : Option String := env.lookup name

/-- The environment with one more variable, unless it is set. -/
def define (env : Environment) (name value : String) : Environment :=
  match env.get? name with
  | some _ => env
  | none => env ++ [(name, value)]

/-- The environment with a variable set, whether or not it was. -/
def set (env : Environment) (name value : String) : Environment :=
  (env.filter fun v => v.1 != name) ++ [(name, value)]

end Environment

end Storefront

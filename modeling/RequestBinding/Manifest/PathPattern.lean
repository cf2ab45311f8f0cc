/-!
# Path patterns

A variable of a path pattern is a name between braces. A name is not empty and holds no brace and no
slash.
-/

namespace RequestBinding

/-- The variables of a pattern, given the name that has been read since the last opening brace, last
character first, if the name can still end in a closing brace. -/
def scanVariables : Option (List Char) → List Char → List String
  | _, [] => []
  | name, c :: rest =>
    if c = '{' then scanVariables (some []) rest
    else if c = '}' then
      match name with
      | some (d :: ds) => String.ofList (d :: ds).reverse :: scanVariables none rest
      | _ => scanVariables none rest
    else if c = '/' then scanVariables none rest
    else scanVariables (name.map (c :: ·)) rest

/-- The variables of a path pattern, in order. -/
def pathVariables (pattern : String) : List String := scanVariables none pattern.toList

end RequestBinding

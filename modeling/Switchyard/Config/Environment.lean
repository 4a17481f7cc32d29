namespace Switchyard

abbrev Environment := List (String × String)

namespace Environment

/-- The value of a variable; one that is not set is empty, and so is one without a name. -/
def value (env : Environment) (name : String) : String :=
  if name.isEmpty then "" else (env.lookup name).getD ""

def splitBrace? : List Char → Option (List Char × List Char)
  | [] => none
  | c :: cs =>
    if c == '\x7d' then some ([], cs)
    else (splitBrace? cs).map fun (name, rest) => (c :: name, rest)

theorem splitBrace?_rest {cs name rest : List Char} (h : splitBrace? cs = some (name, rest)) :
    rest.length < cs.length := by
  induction cs generalizing name with
  | nil => simp [splitBrace?] at h
  | cons c cs ih =>
    by_cases hc : c == '\x7d'
    · simp [splitBrace?, hc] at h
      simp [h.2]
    · simp [splitBrace?, hc] at h
      obtain ⟨name', h', _⟩ := h
      have := ih h'
      simp
      omega

/-- The text with its references replaced; one that is not closed is kept. -/
def expand (env : Environment) : List Char → List Char
  | [] => []
  | '$' :: '\x7b' :: cs =>
    match _h : splitBrace? cs with
    | none => '$' :: '\x7b' :: cs
    | some (name, rest) => (env.value (String.ofList name)).toList ++ expand env rest
  | c :: cs => c :: expand env cs
termination_by cs => cs.length
decreasing_by
  · have := splitBrace?_rest _h
    simp
    omega
  · simp

def references : List Char → List String
  | [] => []
  | '$' :: '\x7b' :: cs =>
    match _h : splitBrace? cs with
    | none => []
    | some (name, rest) => String.ofList name :: references rest
  | _ :: cs => references cs
termination_by cs => cs.length
decreasing_by
  · have := splitBrace?_rest _h
    simp
    omega
  · simp

def expandString (env : Environment) (s : String) : String :=
  String.ofList (env.expand s.toList)

end Environment
end Switchyard

import Switchyard.Config.Environment
import Switchyard.Text.Upper

namespace Switchyard

/-- A pattern of names. A star at its start or at its end stands for any text. -/
structure SecretPattern where
  text : List Char
  deriving DecidableEq, Inhabited

namespace SecretPattern

def occursIn (part : List Char) : List Char → Bool
  | [] => part.isEmpty
  | c :: cs => part.isPrefixOf (c :: cs) || occursIn part cs

def accepts (p : SecretPattern) (name : List Char) : Bool :=
  let text := Text.Upper.ofText p.text
  let starts := text.head? == some '*'
  let ends := text.getLast? == some '*'
  if starts && ends && 2 ≤ text.length then occursIn (text.drop 1).dropLast name
  else if starts && !ends then (text.drop 1).isSuffixOf name
  else if !starts && ends then text.dropLast.isPrefixOf name
  else text == name

end SecretPattern

namespace Environment

def secretPatterns : List SecretPattern :=
  ["*_API_KEY", "*_APIKEY", "*_TOKEN", "*_SECRET", "*_SECRET_KEY", "*_PASSWORD", "*_CREDENTIAL*",
    "AWS_*", "ANTHROPIC_*", "OPENAI_*", "GEMINI_*"].map fun s => ⟨s.toList⟩

def isSecret (name : String) : Bool :=
  secretPatterns.any (·.accepts (Text.Upper.ofText name.toList))

def withoutSecrets (env : Environment) : Environment := env.filter fun v => !isSecret v.1

end Environment
end Switchyard

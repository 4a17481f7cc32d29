import Switchyard.Path

namespace Switchyard.Language

def plaintext : String := "plaintext"

def basenames : List (String × String) := [
  ("dockerfile", "dockerfile"),
  ("containerfile", "dockerfile"),
  ("makefile", "makefile"),
  ("gnumakefile", "makefile"),
  ("cmakelists.txt", "cmake"),
  ("gemfile", "ruby"),
  ("rakefile", "ruby"),
  ("justfile", "just"),
  ("cargo.lock", "toml")]

def extensions : List (String × String) := [
  (".ts", "typescript"),
  (".mts", "typescript"),
  (".cts", "typescript"),
  (".d.ts", "typescript"),
  (".tsx", "typescriptreact"),
  (".js", "javascript"),
  (".mjs", "javascript"),
  (".cjs", "javascript"),
  (".jsx", "javascriptreact"),
  (".json", "json"),
  (".jsonc", "jsonc"),
  (".md", "markdown"),
  (".markdown", "markdown"),
  (".mdx", "mdx"),
  (".rs", "rust"),
  (".py", "python"),
  (".pyi", "python"),
  (".go", "go"),
  (".lua", "lua"),
  (".dockerfile", "dockerfile"),
  (".c", "c"),
  (".h", "c"),
  (".cc", "cpp"),
  (".cpp", "cpp"),
  (".cxx", "cpp"),
  (".hpp", "cpp"),
  (".hh", "cpp"),
  (".cs", "csharp"),
  (".java", "java"),
  (".kt", "kotlin"),
  (".kts", "kotlin"),
  (".swift", "swift"),
  (".rb", "ruby"),
  (".php", "php"),
  (".sh", "shellscript"),
  (".bash", "shellscript"),
  (".zsh", "shellscript"),
  (".yaml", "yaml"),
  (".yml", "yaml"),
  (".toml", "toml"),
  (".html", "html"),
  (".htm", "html"),
  (".css", "css"),
  (".scss", "scss"),
  (".less", "less"),
  (".vue", "vue"),
  (".svelte", "svelte"),
  (".zig", "zig"),
  (".ex", "elixir"),
  (".exs", "elixir"),
  (".hs", "haskell"),
  (".ml", "ocaml"),
  (".sql", "sql"),
  (".xml", "xml"),
  (".tf", "terraform")]

/-- Whether a name is the basename, or the basename and a suffix after a dot. -/
def hasBasename (name : List Char) (basename : String) : Bool :=
  match Path.afterPrefix? basename.toList name with
  | some [] => true
  | some (c :: _) => c == '.'
  | none => false

def hasExtension (name : List Char) (extension : String) : Bool :=
  extension.toList.isSuffixOf name && extension.length < name.length

def longest : List (String × String) → Option (String × String)
  | [] => none
  | e :: rest =>
    match longest rest with
    | none => some e
    | some best => if best.1.length < e.1.length then some e else some best

def ofName (basenames extensions : List (String × String)) (name : List Char) : String :=
  match basenames.find? fun e => hasBasename name e.1 with
  | some e => e.2
  | none =>
    match longest (extensions.filter fun e => hasExtension name e.1) with
    | some e => e.2
    | none => plaintext

/-- The language of a file by the given tables. Letter case is ignored for ASCII letters. -/
def detectWith (basenames extensions : List (String × String)) (file : Path) : String :=
  match file.fileName?.bind Text.Utf8.decode? with
  | some name => ofName basenames extensions (name.map Char.toLower)
  | none => plaintext

def detect (file : Path) : String :=
  detectWith basenames extensions file

end Switchyard.Language

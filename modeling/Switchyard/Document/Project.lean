import Switchyard.Machine.FileTree
import Switchyard.Text.Sorted

namespace Switchyard.Project

def markers : List (String × List String) := [
  ("package.json", ["javascript", "typescript", "json"]),
  ("tsconfig.json", ["typescript"]),
  ("Cargo.toml", ["rust"]),
  ("pyproject.toml", ["python"]),
  ("requirements.txt", ["python"]),
  ("setup.cfg", ["python"]),
  ("setup.py", ["python"]),
  ("go.mod", ["go"]),
  ("Dockerfile", ["dockerfile"]),
  (".eslintrc", ["javascript", "typescript"]),
  (".eslintrc.js", ["javascript", "typescript"]),
  (".eslintrc.cjs", ["javascript", "typescript"]),
  (".eslintrc.json", ["javascript", "typescript"]),
  (".eslintrc.yaml", ["javascript", "typescript"]),
  (".eslintrc.yml", ["javascript", "typescript"]),
  ("eslint.config.js", ["javascript", "typescript"]),
  ("eslint.config.mjs", ["javascript", "typescript"]),
  ("eslint.config.cjs", ["javascript", "typescript"]),
  ("eslint.config.ts", ["javascript", "typescript"]),
  (".luarc.json", ["lua"]),
  (".luarc.jsonc", ["lua"]),
  ("README.md", ["markdown"])]

/-- The languages of the markers that are files in the directory `root`, in order and each once. -/
def languages (files : FileTree) (root : Path) : List String :=
  Text.sortedSet
    ((markers.filter fun m => files.isFile (root.join (.ofString m.1))).flatMap (·.2))

end Switchyard.Project

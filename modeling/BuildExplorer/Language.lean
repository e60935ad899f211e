import BuildExplorer.Json.Basic
import BuildExplorer.Path

/-!
# Languages

What is known about the languages that can be compiled.  The list is ordered by
identifier.
-/

namespace BuildExplorer

/-- A language. -/
structure Language where
  id : String
  name : String
  /-- The mode for highlighting in an editor. -/
  editorMode : String
  /-- File extensions with their dots; the first one names the input file. -/
  extensions : List String
  aliases : List String
  formatter : Option String
  sample : String
  /-- The highlighting mode of the listing. -/
  listingMode : Option String
  deriving DecidableEq, Repr

namespace Language

def assembly : Language where
  id := "assembly"
  name := "Assembly"
  editorMode := "asm"
  extensions := [".asm", ".6502", ".s"]
  aliases := ["asm"]
  formatter := none
  sample := "square:\n    imul edi, edi\n    mov eax, edi\n    ret\n"
  listingMode := none

def c : Language where
  id := "c"
  name := "C"
  editorMode := "nc"
  extensions := [".c", ".h"]
  aliases := []
  formatter := some "clangformat"
  sample := "int square(int num) \x7b\n    return num * num;\n\x7d\n"
  listingMode := none

def cpp : Language where
  id := "c++"
  name := "C++"
  editorMode := "cppp"
  extensions := [".cpp", ".cxx", ".h", ".hpp", ".hxx", ".c", ".cc", ".ixx"]
  aliases := ["gcc", "cpp"]
  formatter := some "clangformat"
  sample := "int square(int num) \x7b\n    return num * num;\n\x7d\n"
  listingMode := none

def cuda : Language where
  id := "cuda"
  name := "CUDA C++"
  editorMode := "cuda"
  extensions := [".cu"]
  aliases := ["nvcc"]
  formatter := none
  sample :=
    "__global__ void square(int *array, int n) \x7b\n" ++
    "    int tid = blockDim.x * blockIdx.x + threadIdx.x;\n" ++
    "    if (tid < n)\n        array[tid] = array[tid] * array[tid];\n\x7d\n"
  listingMode := some "ptx"

def llvm : Language where
  id := "llvm"
  name := "LLVM IR"
  editorMode := "llvm-ir"
  extensions := [".ll"]
  aliases := []
  formatter := none
  sample :=
    "define i32 @square(i32 %num) \x7b\n  %1 = mul nsw i32 %num, %num\n  ret i32 %1\n\x7d\n"
  listingMode := none

def rust : Language where
  id := "rust"
  name := "Rust"
  editorMode := "rust"
  extensions := [".rs"]
  aliases := []
  formatter := some "rustfmt"
  sample := "pub fn square(num: i32) -> i32 \x7b\n    num * num\n\x7d\n"
  listingMode := none

/-- All languages. -/
def all : List Language :=
  [assembly, c, cpp, cuda, llvm, rust]

/-- The language with the identifier, or else with the alias. -/
def find? (key : String) : Option Language :=
  all.find? (·.id == key) <|> all.find? (·.aliases.contains key)

/-- The name of the input file of a request. -/
def sourceName (language : Language) : String :=
  "example" ++ language.extensions.head?.getD ".txt"

/-- The language that the extension of a file speaks for.  A first extension
counts for more than the others. -/
def ofPath? (path : Path) : Option Language := do
  let extension ← path.extension?
  -- No extension of a language holds a letter to which one beyond ASCII is lowered.
  let dotted := String.ofList ('.' :: extension.map Char.toLower)
  all.find? (·.extensions.head? == some dotted) <|> all.find? (·.extensions.contains dotted)

/-- The language as JSON. -/
def toJson (language : Language) : Json :=
  .object [
    ("id", .string language.id),
    ("name", .string language.name),
    ("monaco", .string language.editorMode),
    ("extensions", .ofStrings language.extensions),
    ("alias", .ofStrings language.aliases),
    ("formatter", .ofOption .string language.formatter),
    ("example", .string language.sample),
    ("monacoDisassembly", .ofOption .string language.listingMode)]

end Language

end BuildExplorer

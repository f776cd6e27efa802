import MiniScheme.Interp.Basic

/- What the command loop prints of itself: the banner, the help text, and the
   listing of an environment. The listing shows primitives in columns, sorted by
   name, and after them everything else in the order in which it was bound. -/
namespace MiniScheme.Repl

/-- Lines of text, each ended by a line feed. -/
def unlines (lines : List String) : String := String.join (lines.map (· ++ "\n"))

/-- What is printed before the first line is read. -/
def banner : String := unlines [
  "metacirc: an environment-model Scheme evaluator",
  "Enter expressions like: (define (square x) (* x x))",
  "Type :help for more commands, or Ctrl+C to exit.",
  ""]

/-- What is printed at the end. -/
def farewell : String := "Goodbye!\n"

/-- The answer to `:help`. -/
def help : String := unlines [
  "Commands:",
  "  :help      - Show this help message",
  "  :env       - Show global environment bindings",
  "  :forms     - List the registered special forms",
  "  :quit      - Exit the interpreter",
  "  :exit      - Exit the interpreter",
  "  Ctrl+C     - Exit the interpreter",
  "",
  "Special forms:",
  "  (quote x) 'x (if p c a) (cond (p e...) (else e...)) (begin e...)",
  "  (define x v) (define (f x) body...) (set! x v) (lambda (x) body...)",
  "  (load \"file.scm\") (defined? x) (locally-defined? x)",
  "  (make-unbound! x) (locally-make-unbound! x)",
  "",
  "Examples:",
  "  (define (make-adder n) (lambda (x) (+ x n)))",
  "  ((make-adder 3) 4)",
  "  (cond ((= 1 2) 'a) (else 'b))",
  ""]

def columnWidth : Nat := 15

def columnCount : Nat := 4

/-- A name in a column, filled up with spaces. -/
def cell (name : String) : String :=
  "  " ++ name ++ String.ofList (List.replicate (columnWidth - name.length) ' ')

/-- Names in columns, of which `filled` are done; every row ends with a line feed. -/
def columns (filled : Nat) : List String → String
  | [] => if filled % columnCount = 0 then "" else "\n"
  | name :: rest =>
    let ending := if (filled + 1) % columnCount = 0 then "\n" else ""
    cell name ++ ending ++ columns (filled + 1) rest

/-- The names of the primitives among sorted bindings. -/
def primitiveNames (bindings : List (String × Value)) : List String :=
  (bindings.filter (·.2.isPrimitive)).map (·.1)

/-- The bindings of the innermost frame that are no primitives, in order. -/
def userBindings (store : Store) (env : Env) : List (String × Value) :=
  ((store.frameNames env).filterMap fun name => (store.lookup? env name).map (name, ·)).filter
    (!·.2.isPrimitive)

/-- The section of the primitives. -/
def primitiveSection (names : List String) : String :=
  if names.isEmpty then ""
  else s!"Primitives ({names.length}):\n" ++ columns 0 names ++ "\n"

/-- The section of everything else. -/
def userSection (bindings : List (String × Value)) : String :=
  if bindings.isEmpty then ""
  else s!"User-defined values ({bindings.length}):\n"
    ++ String.join (bindings.map fun b => s!"  {b.1} = {b.2.display}\n")

/-- The answer to `:env`. -/
def environment (store : Store) (env : Env) : String :=
  let bindings := store.allBindings env
  if bindings.isEmpty then "Environment is empty.\n"
  else s!"Environment bindings ({bindings.length} total):\n\n"
    ++ primitiveSection (primitiveNames bindings) ++ userSection (userBindings store env)

/-- The answer to `:forms`. -/
def forms (registry : Registry) : String :=
  "Special forms: " ++ " ".intercalate registry.tags ++ "\n"

end MiniScheme.Repl

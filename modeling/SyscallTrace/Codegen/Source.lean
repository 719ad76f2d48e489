import SyscallTrace.Text.Quoted

/-!
# Generated source text

Every generated file is a list of lines, each written with a closing line feed. It opens with
a two-line banner, and a field name that is a keyword of the target language is written as a
raw identifier (`r#type`).
-/

set_option autoImplicit false

namespace SyscallTrace.Codegen

/-- The text of a list of lines, each closed by a line feed. -/
def render (lines : List String) : String :=
  String.join (lines.map (· ++ "\n"))

/-- The banner every generated file starts with. -/
def banner : List String :=
  ["// Generated file, do not edit.", "// Source: tracewell-schema"]

/-- Words a field may not be named as they are. -/
def keywords : List String :=
  ["as", "async", "await", "box", "break", "const", "continue", "crate", "dyn", "else", "enum",
   "extern", "false", "fn", "for", "if", "impl", "in", "let", "loop", "match", "mod", "move",
   "mut", "pub", "ref", "return", "static", "struct", "super", "trait", "true", "type",
   "unsafe", "use", "where", "while", "yield"]

/-- A field name as an identifier: a keyword is written raw. -/
def ident (name : String) : String :=
  if name ∈ keywords then "r#" ++ name else name

/-- The line that declares a public field of a struct. -/
def fieldDeclLine (field ty : String) : String :=
  "    pub " ++ field ++ ": " ++ ty ++ ","

theorem render_append (a b : List String) : render (a ++ b) = render a ++ render b := by
  simp [render, String.join_append]

end SyscallTrace.Codegen

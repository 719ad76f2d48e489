/-!
# Field lines

A field line of a tracepoint format declares one field:

    <blanks>field:<C type> <name>;<anything>

where the blanks are at least one Unicode blank, the name is one or more of `a-z`, `0-9` and
`_`, and the C type is the shortest text after `field:` that a space, a name and a semicolon
follow. When a line holds several `field:` marks after blanks, the first one that has such a
tail counts.

The blanks are the characters with the White_Space property of Unicode: the ASCII controls from
tab to carriage return, the space, next line, no-break space, ogham space mark, the spaces from
en quad to hair space, the line and paragraph separators, narrow no-break space, medium
mathematical space and ideographic space.

A format is cut into lines at each line feed. A line that ended at a line feed loses one
carriage return before it; the last line, if no line feed ends it, is kept whole, and a text
that ends with a line feed has no empty line after it.

## Results

* `lines_append_newline`: a line without line feeds, ended by one, is the first line.
* `typedName?_cons_space`: a space followed by a name and a semicolon ends the type at once.
-/

set_option autoImplicit false

namespace SyscallTrace.Text

/-- A line cut at a line feed without its one closing carriage return. -/
def dropClosingReturn (line : List Char) : List Char :=
  match line.getLast? with
  | some '\r' => line.dropLast
  | _ => line

/-- Lines of `cs`, with `cur` the reversed characters of the line being read. -/
def linesFrom (cur : List Char) : List Char → List (List Char)
  | [] => if cur.isEmpty then [] else [cur.reverse]
  | c :: rest =>
    if c = '\n' then dropClosingReturn cur.reverse :: linesFrom [] rest
    else linesFrom (c :: cur) rest

/-- The lines of a text. -/
def lines (cs : List Char) : List (List Char) :=
  linesFrom [] cs

theorem linesFrom_append_newline (cur line rest : List Char) (h : '\n' ∉ line) :
    linesFrom cur (line ++ '\n' :: rest) =
      dropClosingReturn (cur.reverse ++ line) :: linesFrom [] rest := by
  induction line generalizing cur with
  | nil => simp [linesFrom]
  | cons c line ih =>
    have hc : c ≠ '\n' := fun e => h (e ▸ List.mem_cons_self)
    have hl : '\n' ∉ line := fun m => h (List.mem_cons_of_mem _ m)
    simp [linesFrom, hc, ih _ hl]

theorem lines_append_newline (line rest : List Char) (h : '\n' ∉ line) :
    lines (line ++ '\n' :: rest) = dropClosingReturn line :: lines rest := by
  simp [lines, linesFrom_append_newline [] line rest h]

example : lines "a\r\nb\n\nc\r".toList = ["a".toList, "b".toList, [], "c\r".toList] := by decide

/-- The White_Space property, as a test on the code point. -/
def isBlank (c : Char) : Bool :=
  let n := c.toNat
  (0x09 ≤ n && n ≤ 0x0D) || n == 0x20 || n == 0x85 || n == 0xA0 || n == 0x1680 ||
    (0x2000 ≤ n && n ≤ 0x200A) || n == 0x2028 || n == 0x2029 || n == 0x202F ||
    n == 0x205F || n == 0x3000

/-- The characters left after the leading blanks. -/
def dropBlanks (cs : List Char) : List Char :=
  cs.dropWhile isBlank

example : isBlank ' ' = true ∧ isBlank '\u00A0' = true ∧ isBlank 'x' = false := by decide

end SyscallTrace.Text

namespace SyscallTrace.Schema

open SyscallTrace.Text

/-- A character that may stand in a field name. -/
def isNameChar (c : Char) : Bool :=
  ('a' ≤ c && c ≤ 'z') || ('0' ≤ c && c ≤ '9') || c == '_'

/-- The name at the start of `cs`, if one or more name characters and then a semicolon
start it. -/
def nameBeforeSemicolon? (cs : List Char) : Option (List Char) :=
  match cs.dropWhile isNameChar with
  | ';' :: _ =>
    let name := cs.takeWhile isNameChar
    if name.isEmpty then none else some name
  | _ => none

/-- Splits the text after `field:` into the shortest type that a space, a name and a semicolon
follow, and that name. -/
def typedName? : List Char → Option (List Char × List Char)
  | [] => none
  | c :: rest =>
    match (if c = ' ' then nameBeforeSemicolon? rest else none) with
    | some name => some ([], name)
    | none => (typedName? rest).map fun (ty, name) => (c :: ty, name)

/-- The mark that starts a field declaration. -/
def fieldMark : List Char := "field:".toList

/-- The type and name of the first `field:` mark after a blank that has a well-formed tail;
`afterBlank` says whether the character before `cs` is blank. -/
def fieldParts? (afterBlank : Bool) : List Char → Option (List Char × List Char)
  | [] => none
  | c :: rest =>
    let here :=
      if afterBlank && fieldMark.isPrefixOf (c :: rest) then
        typedName? ((c :: rest).drop fieldMark.length)
      else none
    match here with
    | some parts => some parts
    | none => fieldParts? (isBlank c) rest

/-- A line declares a field when, after its leading blanks, it starts with `field:`. -/
def startsField (line : List Char) : Bool :=
  fieldMark.isPrefixOf (dropBlanks line)

/-- The C type and name declared by a field line, if it has the shape of a declaration. -/
def fieldDeclaration? (line : List Char) : Option (String × String) :=
  (fieldParts? false line).map fun (ty, name) => (String.ofList ty, String.ofList name)

theorem typedName?_cons_space (rest name : List Char) (h : nameBeforeSemicolon? rest = some name) :
    typedName? (' ' :: rest) = some ([], name) := by
  simp [typedName?, h]

example : fieldDeclaration? "\tfield:unsigned int fd;\toffset:16;".toList =
    some ("unsigned int", "fd") := by decide

example : fieldDeclaration? "\tfield:char * buf;".toList = some ("char *", "buf") := by decide

end SyscallTrace.Schema

import SyscallTrace.Codegen.Alignment
import SyscallTrace.Codegen.Source

/-!
# Generated decoder events

For each syscall the decoder source declares a struct of its decoded fields, a `decode` that
checks the payload size and reads each field at its record width, and the four views of an
event: `render` (one line of text), `arg` (one argument as text), `args` (named arguments) and
`metric` (the wire message). A descriptor field also gets a `_path` field, filled by asking
the context for the path of the descriptor; `close` then makes the context forget it. An enum
of all syscalls and a dispatch on the event name close the file.

A buffer is shown as a C string, or, for a syscall whose return value counts its bytes, as
that many bytes.
-/

set_option autoImplicit false

namespace SyscallTrace.Codegen

open SyscallTrace.Schema SyscallTrace.Text

/-- The type of a decoded field. -/
def decoderTypeText : DecoderType → String
  | .buffer => "[u8; MAX_BUFFER_SIZE]"
  | .i32 => "i32"
  | .u32 => "u32"
  | .i64 => "i64"
  | .u64 => "u64"

/-- The expression that reads a field at the width the probe wrote it with. -/
def readText : RecordType → String
  | .char => "read_buffer(payload)"
  | .s32 => "payload.get_i32_ne()"
  | .u32 => "payload.get_u32_ne()"
  | .s64 => "payload.get_i64_ne()"
  | .u64 => "payload.get_u64_ne()"

/-- The field that holds the path of a descriptor field. -/
def pathField (p : Param DecoderType) : String :=
  p.rawName ++ "_path"

/-- A syscall's text views need the return value: its buffers are bounded by it. -/
def usesRet (s : Syscall DecoderType) : Bool :=
  s.bufferPolicy == .returnBounded && s.params.any (·.ty.isBuffer)

/-- The name the text views bind the return value under: unused, and so marked, unless a buffer
is bounded by it. -/
def retBinding (s : Syscall DecoderType) : String :=
  if usesRet s then "ret" else "_ret"

/-- The text of a buffer field bounded by the return value: the only expression that reads it. -/
def retBoundedText (field : String) : String :=
  "String::from_utf8_lossy(ret_bounded(&self." ++ field ++ ", ret))"

/-- The expression that shows a field as text. -/
def displayText (s : Syscall DecoderType) (p : Param DecoderType) : String :=
  let field := ident p.rawName
  if !p.ty.isBuffer then "self." ++ field
  else
    match s.bufferPolicy with
    | .nulTerminated => "String::from_utf8_lossy(c_str(&self." ++ field ++ "))"
    | .returnBounded => retBoundedText field

/-- The fields of the decoded struct, with their types: each argument at its decoder type, and
after a descriptor the text of its path. -/
def structFields (s : Syscall DecoderType) : List (String × String) :=
  s.params.flatMap fun p =>
    [(ident p.rawName, decoderTypeText p.ty)] ++
      (if p.needsPath then [(pathField p, "String")] else [])

/-- The struct of decoded fields. -/
def structLines (s : Syscall DecoderType) : List String :=
  ["", "/// `" ++ s.rawName ++ "` as decoded from the probe.",
    "#[derive(Clone, Debug, PartialEq, Eq)]", "pub struct " ++ s.name ++ " \x7b"] ++
  (structFields s).map (fun f => fieldDeclLine f.1 f.2) ++
  ["\x7d"]

/-- Bytes of payload a record holds after the common header. -/
def payloadSize (k : Syscall RecordType) : Nat :=
  (k.params.map (·.ty.size)).foldr (· + ·) 0

/-- The line that declares the payload size of an event or a record. -/
def payloadSizeLine (size : Nat) : String :=
  "    pub const PAYLOAD_SIZE: usize = " ++ toString size ++ ";"

/-- A line of the struct literal built by `decode`: a field and the value it is set to. -/
def initLine (field value : String) : String :=
  "            " ++ field ++ ": " ++ value ++ ","

/-- The fields `decode` sets, in order, with their values: each argument read at the width of
its record field, and after a descriptor the empty text its path is resolved into. -/
def decodeInits (d : Syscall DecoderType) (k : Syscall RecordType) : List (String × String) :=
  (d.params.zip k.params).flatMap fun (p, r) =>
    [(ident p.rawName, readText r.ty)] ++
      (if p.needsPath then [(pathField p, "String::new()")] else [])

/-- The name `decode` binds the header under: unused, and so marked, unless a path is resolved. -/
def headerBinding (d : Syscall DecoderType) : String :=
  if d.params.any (·.needsPath) then "header" else "_header"

/-- The name `decode` binds the context under: unused, and so marked, unless a path is resolved
or the syscall is `close`. -/
def ctxBinding (d : Syscall DecoderType) : String :=
  if d.params.any (·.needsPath) || d.rawName == "close" then "ctx" else "_ctx"

/-- The binding of the decoded event: mutable when its path fields are filled in afterwards. -/
def eventBinding (d : Syscall DecoderType) : String :=
  if d.params.any (·.needsPath) then "mut event" else "event"

/-- A statement of `decode` after the struct literal: a call of `method` on the context for the
descriptor in the event's field `fd` of the process in the header, its answer stored in the
field `into` when there is one. -/
structure ContextCall where
  method : String
  fd : String
  into : Option String
  deriving DecidableEq, Repr

/-- The line of a context call. -/
def ContextCall.line (c : ContextCall) : String :=
  let call := "ctx." ++ c.method ++ "(header.pid as u32, event." ++ c.fd ++ " as u32);"
  match c.into with
  | some field => "        event." ++ field ++ " = " ++ call
  | none => "        " ++ call

/-- The context calls of `decode`: the path of each descriptor field is resolved, and `close`
makes the context forget the descriptor in the field `fd`. -/
def contextCalls (d : Syscall DecoderType) : List ContextCall :=
  (d.params.filter (·.needsPath)).map
      (fun p => ⟨"resolve_fd_path", ident p.rawName, some (pathField p)⟩) ++
  (if d.rawName == "close" then [⟨"forget_fd", "fd", none⟩] else [])

/-- The constants and `decode` of a syscall. -/
def decodeLines (d : Syscall DecoderType) (k : Syscall RecordType) : List String :=
  let argNames := ", ".intercalate (d.params.map (quote ·.rawName))
  ["", "impl " ++ d.name ++ " \x7b",
    "    pub const NAME: &'static str = " ++ quote d.rawName ++ ";",
    "    pub const ARG_NAMES: &'static [&'static str] = &[" ++ argNames ++ "];",
    "    /// Bytes following the common header.",
    payloadSizeLine (payloadSize k),
    "",
    "    pub fn decode(",
    "        " ++ headerBinding d ++ ": &Header,",
    "        payload: &mut &[u8],",
    "        " ++ ctxBinding d ++ ": &Context,",
    "    ) -> Result<Self, DecodeError> \x7b",
    "        ensure_payload(Self::NAME, payload, Self::PAYLOAD_SIZE)?;",
    "",
    "        let " ++ eventBinding d ++ " = Self \x7b"] ++
  (decodeInits d k).map (fun f => initLine f.1 f.2) ++
  ["        \x7d;"] ++
  (if d.params.any (·.needsPath) then [""] else []) ++
  (contextCalls d).map ContextCall.line ++
  ["", "        Ok(event)", "    \x7d", "\x7d"]

/-- The placeholders a field adds to the `render` template. -/
def templatePiece (p : Param DecoderType) : String :=
  if p.ty.isBuffer then p.name ++ " \x7b:?\x7d "
  else if p.needsPath then p.name ++ " \x7b\x7d<\x7b\x7d> "
  else p.name ++ " \x7b\x7d "

/-- The values a field adds after the `render` template. -/
def templateValues (s : Syscall DecoderType) (p : Param DecoderType) : List String :=
  [displayText s p] ++ (if p.needsPath then ["self." ++ pathField p] else [])

/-- The `render` template of a syscall: each field's name and placeholders, in order. -/
def renderTemplate (s : Syscall DecoderType) : String :=
  String.join (s.params.map templatePiece)

/-- The values that follow the `render` template, in order. -/
def renderValues (s : Syscall DecoderType) : List String :=
  s.params.flatMap (templateValues s)

/-- The value a field gives in `args`. -/
def argsValue (s : Syscall DecoderType) (p : Param DecoderType) : String :=
  let value := displayText s p
  if p.ty.isBuffer then "format!(\"\x7b:?\x7d\", " ++ value ++ ")"
  else if p.needsPath then
    "format!(\"\x7b\x7d<\x7b\x7d>\", " ++ value ++ ", self." ++ pathField p ++ ")"
  else value ++ ".to_string()"

/-- The fields the metric message of a syscall sets, with their values. -/
def metricInits (s : Syscall DecoderType) : List (String × String) :=
  s.params.map fun p =>
    let field := ident p.rawName
    (field, if p.ty.isBuffer then "self." ++ field ++ ".to_vec()" else "self." ++ field ++ ".into()")

/-- The line of `metric` that names the envelope variant and the message it carries. -/
def metricEventLine (variant message : String) : String :=
  "            event: Some(metric::Event::" ++ variant ++ "(" ++ message ++ " \x7b"

/-- The four text and message views of a syscall. -/
def traceEventLines (s : Syscall DecoderType) (wireName : String) : List String :=
  let ret := retBinding s
  ["", "impl TraceEvent for " ++ s.name ++ " \x7b",
    "    fn render(&self, " ++ ret ++ ": i64) -> String \x7b",
    "        format!(",
    "            " ++ quote (renderTemplate s) ++ ","] ++
  (renderValues s).map (fun v => "            " ++ v ++ ",") ++
  ["        )", "    \x7d", "",
    "    fn arg(&self, n: usize, " ++ ret ++ ": i64) -> Result<String, ArgError> \x7b",
    "        match n \x7b"] ++
  s.params.map (fun p =>
    "            " ++ toString p.position ++ " => Ok(" ++ displayText s p ++ ".to_string()),") ++
  ["            _ => Err(ArgError::OutOfRange \x7b",
    "                event: Self::NAME,",
    "                index: n,",
    "            \x7d),",
    "        \x7d",
    "    \x7d",
    "",
    "    fn args(&self, " ++ ret ++ ": i64) -> Vec<(&'static str, String)> \x7b",
    "        vec!["] ++
  s.params.map (fun p => "            (" ++ quote p.rawName ++ ", " ++ argsValue s p ++ "),") ++
  ["        ]", "    \x7d", "",
    "    fn metric(&self) -> Option<Metric> \x7b",
    "        Some(Metric \x7b",
    metricEventLine s.name wireName] ++
  (metricInits s).map (fun f => "                " ++ f.1 ++ ": " ++ f.2 ++ ",") ++
  ["            \x7d)),", "            ..Default::default()", "        \x7d)", "    \x7d", "\x7d"]

/-- A `match self` that hands `call` to the event of each syscall. -/
def delegateLines (syscalls : List (Syscall DecoderType)) (call : String) : List String :=
  ["        match self \x7b"] ++
  syscalls.map (fun s => "            SyscallEvent::" ++ s.camelName ++ "(event) => event." ++ call ++ ",") ++
  ["        \x7d"]

/-- The enum of all syscall events and its views. -/
def enumLines (syscalls : List (Syscall DecoderType)) : List String :=
  ["", "/// Any of the traced syscalls.", "#[derive(Clone, Debug, PartialEq, Eq)]",
    "pub enum SyscallEvent \x7b"] ++
  syscalls.map (fun s => "    " ++ s.camelName ++ "(" ++ s.name ++ "),") ++
  ["\x7d", "", "impl SyscallEvent \x7b", "    pub fn name(&self) -> &'static str \x7b",
    "        match self \x7b"] ++
  syscalls.map (fun s => "            SyscallEvent::" ++ s.camelName ++ "(_) => " ++ s.name ++ "::NAME,") ++
  ["        \x7d", "    \x7d", "\x7d", "", "impl TraceEvent for SyscallEvent \x7b",
    "    fn render(&self, ret: i64) -> String \x7b"] ++
  delegateLines syscalls "render(ret)" ++
  ["    \x7d", "", "    fn arg(&self, n: usize, ret: i64) -> Result<String, ArgError> \x7b"] ++
  delegateLines syscalls "arg(n, ret)" ++
  ["    \x7d", "", "    fn args(&self, ret: i64) -> Vec<(&'static str, String)> \x7b"] ++
  delegateLines syscalls "args(ret)" ++
  ["    \x7d", "", "    fn metric(&self) -> Option<Metric> \x7b"] ++
  delegateLines syscalls "metric()" ++
  ["    \x7d", "\x7d"]

/-- The dispatch from an event name to its decoder. -/
def dispatchLines (syscalls : List (Syscall DecoderType)) : List String :=
  ["", "/// Decodes the payload of a traced syscall; `None` if `header` names",
    "/// an event that is not one of them.", "pub fn decode_syscall(", "    header: &Header,",
    "    payload: &mut &[u8],", "    ctx: &Context,",
    ") -> Option<Result<SyscallEvent, DecodeError>> \x7b",
    "    let event = match header.name.as_str() \x7b"] ++
  syscalls.map (fun s => "        " ++ quote s.rawName ++ " => " ++ s.name ++
    "::decode(header, payload, ctx).map(SyscallEvent::" ++ s.camelName ++ "),") ++
  ["        _ => return None,", "    \x7d;", "", "    Some(event)", "\x7d"]

/-- The lines of the decoder source of an aligned schema set. -/
def decoderLines (s : SchemaSet) : List String :=
  banner ++
  ((s.decoder.zip (s.kernel.zip s.wire)).flatMap fun (d, k, w) =>
    structLines d ++ decodeLines d k ++ traceEventLines d w.name) ++
  enumLines s.decoder ++ dispatchLines s.decoder

/-- The decoder source, or the first misalignment of the set. -/
def generateDecoder (s : SchemaSet) : Except Misalignment String :=
  match checkAligned s with
  | .error e => .error e
  | .ok () => .ok (render (decoderLines s))

end SyscallTrace.Codegen

import SyscallTrace.Schema.Directory

/-!
# The bundled format snapshot

The format descriptions of the considered syscalls as a kernel describes them, shipped with
the library so that schemas can be compiled without a live tracefs. The decoder of recorded
events is built from this snapshot.
-/

set_option autoImplicit false

namespace SyscallTrace.Schema

/-- The format of `sys_enter_chmod`. -/
def formatChmod : String :=
  "name: sys_enter_chmod\n" ++
  "ID: 593\n" ++
  "format:\n" ++
  "\tfield:unsigned short common_type;\toffset:0;\tsize:2;\tsigned:0;\n" ++
  "\tfield:unsigned char common_flags;\toffset:2;\tsize:1;\tsigned:0;\n" ++
  "\tfield:unsigned char common_preempt_count;\toffset:3;\tsize:1;\tsigned:0;\n" ++
  "\tfield:int common_pid;\toffset:4;\tsize:4;\tsigned:1;\n" ++
  "\n" ++
  "\tfield:int __syscall_nr;\toffset:8;\tsize:4;\tsigned:1;\n" ++
  "\tfield:const char * filename;\toffset:16;\tsize:8;\tsigned:0;\n" ++
  "\tfield:umode_t mode;\toffset:24;\tsize:8;\tsigned:0;\n" ++
  "\n" ++
  "print fmt: \"filename: 0x%08lx, mode: 0x%08lx\", ((unsigned long)(REC->filename)), ((unsigned long)(REC->mode))\n"

/-- The format of `sys_enter_chown`. -/
def formatChown : String :=
  "name: sys_enter_chown\n" ++
  "ID: 583\n" ++
  "format:\n" ++
  "\tfield:unsigned short common_type;\toffset:0;\tsize:2;\tsigned:0;\n" ++
  "\tfield:unsigned char common_flags;\toffset:2;\tsize:1;\tsigned:0;\n" ++
  "\tfield:unsigned char common_preempt_count;\toffset:3;\tsize:1;\tsigned:0;\n" ++
  "\tfield:int common_pid;\toffset:4;\tsize:4;\tsigned:1;\n" ++
  "\n" ++
  "\tfield:int __syscall_nr;\toffset:8;\tsize:4;\tsigned:1;\n" ++
  "\tfield:const char * filename;\toffset:16;\tsize:8;\tsigned:0;\n" ++
  "\tfield:uid_t user;\toffset:24;\tsize:8;\tsigned:0;\n" ++
  "\tfield:gid_t group;\toffset:32;\tsize:8;\tsigned:0;\n" ++
  "\n" ++
  "print fmt: \"filename: 0x%08lx, user: 0x%08lx, group: 0x%08lx\", ((unsigned long)(REC->filename)), ((unsigned long)(REC->user)), ((unsigned long)(REC->group))\n"

/-- The format of `sys_enter_close`. -/
def formatClose : String :=
  "name: sys_enter_close\n" ++
  "ID: 627\n" ++
  "format:\n" ++
  "\tfield:unsigned short common_type;\toffset:0;\tsize:2;\tsigned:0;\n" ++
  "\tfield:unsigned char common_flags;\toffset:2;\tsize:1;\tsigned:0;\n" ++
  "\tfield:unsigned char common_preempt_count;\toffset:3;\tsize:1;\tsigned:0;\n" ++
  "\tfield:int common_pid;\toffset:4;\tsize:4;\tsigned:1;\n" ++
  "\n" ++
  "\tfield:int __syscall_nr;\toffset:8;\tsize:4;\tsigned:1;\n" ++
  "\tfield:unsigned int fd;\toffset:16;\tsize:8;\tsigned:0;\n" ++
  "\n" ++
  "print fmt: \"fd: 0x%08lx\", ((unsigned long)(REC->fd))\n"

/-- The format of `sys_enter_fchmod`. -/
def formatFchmod : String :=
  "name: sys_enter_fchmod\n" ++
  "ID: 597\n" ++
  "format:\n" ++
  "\tfield:unsigned short common_type;\toffset:0;\tsize:2;\tsigned:0;\n" ++
  "\tfield:unsigned char common_flags;\toffset:2;\tsize:1;\tsigned:0;\n" ++
  "\tfield:unsigned char common_preempt_count;\toffset:3;\tsize:1;\tsigned:0;\n" ++
  "\tfield:int common_pid;\toffset:4;\tsize:4;\tsigned:1;\n" ++
  "\n" ++
  "\tfield:int __syscall_nr;\toffset:8;\tsize:4;\tsigned:1;\n" ++
  "\tfield:unsigned int fd;\toffset:16;\tsize:8;\tsigned:0;\n" ++
  "\tfield:umode_t mode;\toffset:24;\tsize:8;\tsigned:0;\n" ++
  "\n" ++
  "print fmt: \"fd: 0x%08lx, mode: 0x%08lx\", ((unsigned long)(REC->fd)), ((unsigned long)(REC->mode))\n"

/-- The format of `sys_enter_fchmodat`. -/
def formatFchmodat : String :=
  "name: sys_enter_fchmodat\n" ++
  "ID: 595\n" ++
  "format:\n" ++
  "\tfield:unsigned short common_type;\toffset:0;\tsize:2;\tsigned:0;\n" ++
  "\tfield:unsigned char common_flags;\toffset:2;\tsize:1;\tsigned:0;\n" ++
  "\tfield:unsigned char common_preempt_count;\toffset:3;\tsize:1;\tsigned:0;\n" ++
  "\tfield:int common_pid;\toffset:4;\tsize:4;\tsigned:1;\n" ++
  "\n" ++
  "\tfield:int __syscall_nr;\toffset:8;\tsize:4;\tsigned:1;\n" ++
  "\tfield:int dfd;\toffset:16;\tsize:8;\tsigned:0;\n" ++
  "\tfield:const char * filename;\toffset:24;\tsize:8;\tsigned:0;\n" ++
  "\tfield:umode_t mode;\toffset:32;\tsize:8;\tsigned:0;\n" ++
  "\n" ++
  "print fmt: \"dfd: 0x%08lx, filename: 0x%08lx, mode: 0x%08lx\", ((unsigned long)(REC->dfd)), ((unsigned long)(REC->filename)), ((unsigned long)(REC->mode))\n"

/-- The format of `sys_enter_fchown`. -/
def formatFchown : String :=
  "name: sys_enter_fchown\n" ++
  "ID: 589\n" ++
  "format:\n" ++
  "\tfield:unsigned short common_type;\toffset:0;\tsize:2;\tsigned:0;\n" ++
  "\tfield:unsigned char common_flags;\toffset:2;\tsize:1;\tsigned:0;\n" ++
  "\tfield:unsigned char common_preempt_count;\toffset:3;\tsize:1;\tsigned:0;\n" ++
  "\tfield:int common_pid;\toffset:4;\tsize:4;\tsigned:1;\n" ++
  "\n" ++
  "\tfield:int __syscall_nr;\toffset:8;\tsize:4;\tsigned:1;\n" ++
  "\tfield:unsigned int fd;\toffset:16;\tsize:8;\tsigned:0;\n" ++
  "\tfield:uid_t user;\toffset:24;\tsize:8;\tsigned:0;\n" ++
  "\tfield:gid_t group;\toffset:32;\tsize:8;\tsigned:0;\n" ++
  "\n" ++
  "print fmt: \"fd: 0x%08lx, user: 0x%08lx, group: 0x%08lx\", ((unsigned long)(REC->fd)), ((unsigned long)(REC->user)), ((unsigned long)(REC->group))\n"

/-- The format of `sys_enter_fchownat`. -/
def formatFchownat : String :=
  "name: sys_enter_fchownat\n" ++
  "ID: 587\n" ++
  "format:\n" ++
  "\tfield:unsigned short common_type;\toffset:0;\tsize:2;\tsigned:0;\n" ++
  "\tfield:unsigned char common_flags;\toffset:2;\tsize:1;\tsigned:0;\n" ++
  "\tfield:unsigned char common_preempt_count;\toffset:3;\tsize:1;\tsigned:0;\n" ++
  "\tfield:int common_pid;\toffset:4;\tsize:4;\tsigned:1;\n" ++
  "\n" ++
  "\tfield:int __syscall_nr;\toffset:8;\tsize:4;\tsigned:1;\n" ++
  "\tfield:int dfd;\toffset:16;\tsize:8;\tsigned:0;\n" ++
  "\tfield:const char * filename;\toffset:24;\tsize:8;\tsigned:0;\n" ++
  "\tfield:uid_t user;\toffset:32;\tsize:8;\tsigned:0;\n" ++
  "\tfield:gid_t group;\toffset:40;\tsize:8;\tsigned:0;\n" ++
  "\tfield:int flag;\toffset:48;\tsize:8;\tsigned:0;\n" ++
  "\n" ++
  "print fmt: \"dfd: 0x%08lx, filename: 0x%08lx, user: 0x%08lx, group: 0x%08lx, flag: 0x%08lx\", ((unsigned long)(REC->dfd)), ((unsigned long)(REC->filename)), ((unsigned long)(REC->user)), ((unsigned long)(REC->group)), ((unsigned long)(REC->flag))\n"

/-- The format of `sys_enter_mkdir`. -/
def formatMkdir : String :=
  "name: sys_enter_mkdir\n" ++
  "ID: 549\n" ++
  "format:\n" ++
  "\tfield:unsigned short common_type;\toffset:0;\tsize:2;\tsigned:0;\n" ++
  "\tfield:unsigned char common_flags;\toffset:2;\tsize:1;\tsigned:0;\n" ++
  "\tfield:unsigned char common_preempt_count;\toffset:3;\tsize:1;\tsigned:0;\n" ++
  "\tfield:int common_pid;\toffset:4;\tsize:4;\tsigned:1;\n" ++
  "\n" ++
  "\tfield:int __syscall_nr;\toffset:8;\tsize:4;\tsigned:1;\n" ++
  "\tfield:const char * pathname;\toffset:16;\tsize:8;\tsigned:0;\n" ++
  "\tfield:umode_t mode;\toffset:24;\tsize:8;\tsigned:0;\n" ++
  "\n" ++
  "print fmt: \"pathname: 0x%08lx, mode: 0x%08lx\", ((unsigned long)(REC->pathname)), ((unsigned long)(REC->mode))\n"

/-- The format of `sys_enter_mkdirat`. -/
def formatMkdirat : String :=
  "name: sys_enter_mkdirat\n" ++
  "ID: 551\n" ++
  "format:\n" ++
  "\tfield:unsigned short common_type;\toffset:0;\tsize:2;\tsigned:0;\n" ++
  "\tfield:unsigned char common_flags;\toffset:2;\tsize:1;\tsigned:0;\n" ++
  "\tfield:unsigned char common_preempt_count;\toffset:3;\tsize:1;\tsigned:0;\n" ++
  "\tfield:int common_pid;\toffset:4;\tsize:4;\tsigned:1;\n" ++
  "\n" ++
  "\tfield:int __syscall_nr;\toffset:8;\tsize:4;\tsigned:1;\n" ++
  "\tfield:int dfd;\toffset:16;\tsize:8;\tsigned:0;\n" ++
  "\tfield:const char * pathname;\toffset:24;\tsize:8;\tsigned:0;\n" ++
  "\tfield:umode_t mode;\toffset:32;\tsize:8;\tsigned:0;\n" ++
  "\n" ++
  "print fmt: \"dfd: 0x%08lx, pathname: 0x%08lx, mode: 0x%08lx\", ((unsigned long)(REC->dfd)), ((unsigned long)(REC->pathname)), ((unsigned long)(REC->mode))\n"

/-- The format of `sys_enter_open`. -/
def formatOpen : String :=
  "name: sys_enter_open\n" ++
  "ID: 629\n" ++
  "format:\n" ++
  "\tfield:unsigned short common_type;\toffset:0;\tsize:2;\tsigned:0;\n" ++
  "\tfield:unsigned char common_flags;\toffset:2;\tsize:1;\tsigned:0;\n" ++
  "\tfield:unsigned char common_preempt_count;\toffset:3;\tsize:1;\tsigned:0;\n" ++
  "\tfield:int common_pid;\toffset:4;\tsize:4;\tsigned:1;\n" ++
  "\n" ++
  "\tfield:int __syscall_nr;\toffset:8;\tsize:4;\tsigned:1;\n" ++
  "\tfield:const char * filename;\toffset:16;\tsize:8;\tsigned:0;\n" ++
  "\tfield:int flags;\toffset:24;\tsize:8;\tsigned:0;\n" ++
  "\tfield:umode_t mode;\toffset:32;\tsize:8;\tsigned:0;\n" ++
  "\n" ++
  "print fmt: \"filename: 0x%08lx, flags: 0x%08lx, mode: 0x%08lx\", ((unsigned long)(REC->filename)), ((unsigned long)(REC->flags)), ((unsigned long)(REC->mode))\n"

/-- The format of `sys_enter_read`. -/
def formatRead : String :=
  "name: sys_enter_read\n" ++
  "ID: 697\n" ++
  "format:\n" ++
  "\tfield:unsigned short common_type;\toffset:0;\tsize:2;\tsigned:0;\n" ++
  "\tfield:unsigned char common_flags;\toffset:2;\tsize:1;\tsigned:0;\n" ++
  "\tfield:unsigned char common_preempt_count;\toffset:3;\tsize:1;\tsigned:0;\n" ++
  "\tfield:int common_pid;\toffset:4;\tsize:4;\tsigned:1;\n" ++
  "\n" ++
  "\tfield:int __syscall_nr;\toffset:8;\tsize:4;\tsigned:1;\n" ++
  "\tfield:unsigned int fd;\toffset:16;\tsize:8;\tsigned:0;\n" ++
  "\tfield:char * buf;\toffset:24;\tsize:8;\tsigned:0;\n" ++
  "\tfield:size_t count;\toffset:32;\tsize:8;\tsigned:0;\n" ++
  "\n" ++
  "print fmt: \"fd: 0x%08lx, buf: 0x%08lx, count: 0x%08lx\", ((unsigned long)(REC->fd)), ((unsigned long)(REC->buf)), ((unsigned long)(REC->count))\n"

/-- The format of `sys_enter_write`. -/
def formatWrite : String :=
  "name: sys_enter_write\n" ++
  "ID: 695\n" ++
  "format:\n" ++
  "\tfield:unsigned short common_type;\toffset:0;\tsize:2;\tsigned:0;\n" ++
  "\tfield:unsigned char common_flags;\toffset:2;\tsize:1;\tsigned:0;\n" ++
  "\tfield:unsigned char common_preempt_count;\toffset:3;\tsize:1;\tsigned:0;\n" ++
  "\tfield:int common_pid;\toffset:4;\tsize:4;\tsigned:1;\n" ++
  "\n" ++
  "\tfield:int __syscall_nr;\toffset:8;\tsize:4;\tsigned:1;\n" ++
  "\tfield:unsigned int fd;\toffset:16;\tsize:8;\tsigned:0;\n" ++
  "\tfield:const char * buf;\toffset:24;\tsize:8;\tsigned:0;\n" ++
  "\tfield:size_t count;\toffset:32;\tsize:8;\tsigned:0;\n" ++
  "\n" ++
  "print fmt: \"fd: 0x%08lx, buf: 0x%08lx, count: 0x%08lx\", ((unsigned long)(REC->fd)), ((unsigned long)(REC->buf)), ((unsigned long)(REC->count))\n"

/-- The snapshot as a tracepoint directory, one subdirectory per syscall. -/
def snapshotDir : TraceDir :=
  ⟨"formats/syscalls", .ok [
    .subdir "sys_enter_chmod" (.bytes (Text.Utf8.encode formatChmod)),
    .subdir "sys_enter_chown" (.bytes (Text.Utf8.encode formatChown)),
    .subdir "sys_enter_close" (.bytes (Text.Utf8.encode formatClose)),
    .subdir "sys_enter_fchmod" (.bytes (Text.Utf8.encode formatFchmod)),
    .subdir "sys_enter_fchmodat" (.bytes (Text.Utf8.encode formatFchmodat)),
    .subdir "sys_enter_fchown" (.bytes (Text.Utf8.encode formatFchown)),
    .subdir "sys_enter_fchownat" (.bytes (Text.Utf8.encode formatFchownat)),
    .subdir "sys_enter_mkdir" (.bytes (Text.Utf8.encode formatMkdir)),
    .subdir "sys_enter_mkdirat" (.bytes (Text.Utf8.encode formatMkdirat)),
    .subdir "sys_enter_open" (.bytes (Text.Utf8.encode formatOpen)),
    .subdir "sys_enter_read" (.bytes (Text.Utf8.encode formatRead)),
    .subdir "sys_enter_write" (.bytes (Text.Utf8.encode formatWrite))]⟩

end SyscallTrace.Schema

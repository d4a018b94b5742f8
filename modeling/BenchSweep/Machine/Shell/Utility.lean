/-
  The programs of the system that scripts call.

  A bare machine has more programs than are carried out here.  Those that are not end with the status that
  they have for words that they do not take, and leave everything as it is; so a script that calls one goes
  on, or stops, as it would for a program that fails.

  Part of the stand-in for the machine (`Machine/System`).
-/
import BenchSweep.Machine.Shell.Utility.Block
import BenchSweep.Machine.Shell.Utility.Copy
import BenchSweep.Machine.Shell.Utility.Difference
import BenchSweep.Machine.Shell.Utility.Dump
import BenchSweep.Machine.Shell.Utility.Edit
import BenchSweep.Machine.Shell.Utility.Expression
import BenchSweep.Machine.Shell.Utility.Listing
import BenchSweep.Machine.Shell.Utility.Order
import BenchSweep.Machine.Shell.Utility.Place
import BenchSweep.Machine.Shell.Utility.Search
import BenchSweep.Machine.Shell.Utility.Table
import BenchSweep.Machine.Shell.Utility.ByteSet
import BenchSweep.Machine.Shell.Utility.Value

namespace BenchSweep.Machine.Shell.Utility

/-- The names of the programs. -/
def names : List String :=
  ["[", "arch", "awk", "b2sum", "base32", "base64", "basename", "basenc", "bash", "bunzip2", "bzip2", "cat",
    "chgrp", "chmod", "chown", "cksum", "cmp", "comm", "cp", "csplit", "cut", "dash", "date", "dd", "df",
    "diff", "diff3", "dir", "dircolors", "dirname", "dmesg", "du", "echo", "egrep", "env", "expand", "expr",
    "factor", "false", "fgrep", "find", "flock", "fmt", "fold", "getopt", "grep", "groups", "gunzip", "gzip",
    "head", "hostid", "hostname", "iconv", "id", "install", "ionice", "join", "kill", "link", "ln", "logger",
    "logname", "ls", "lsblk", "mawk", "md5sum", "mkdir", "mkfifo", "mknod", "mktemp", "more", "mount", "mv",
    "nice", "nl", "nohup", "nproc", "numfmt", "od", "paste", "pathchk", "perl", "pinky", "pr", "printenv",
    "printf", "ptx", "pwd", "readlink", "realpath", "renice", "rev", "rm", "rmdir", "run-parts", "sdiff",
    "sed", "seq", "setsid", "sh", "sha1sum", "sha224sum", "sha256sum", "sha384sum", "sha512sum", "shred",
    "shuf", "sleep", "sort", "split", "stat", "stdbuf", "stty", "sum", "sync", "tac", "tail", "tar",
    "taskset", "tee", "tempfile", "test", "timeout", "touch", "tput", "tr", "true", "truncate", "tsort",
    "tty", "umount", "uname", "unexpand", "uniq", "unlink", "users", "vdir", "wc", "which", "who", "whoami",
    "xargs", "yes", "zcat"]

/-- What a program does that does not start others; one that is not among these refuses its words. -/
def run (name : String) (words : List Bytes) (s : Session) : Session :=
  match name with
  | "true" | "sync" => s.withStatus 0
  | "false" => s.withStatus 1
  | "echo" => echo words s
  | "printf" => printf words s
  | "test" => test "test" words s
  | "[" => bracket words s
  | "printenv" => printenv words s
  | "which" => which words s
  | "sleep" => sleep words s
  | "seq" => seq words s
  | "expr" => expr words s
  | "id" => identity words s
  | "whoami" | "logname" => line "root" words s
  | "groups" => line "root" words s
  | "hostname" => line "localhost" words s
  | "arch" => line "x86_64" words s
  | "nproc" => line "1" words s
  | "tty" => (line "not a tty" words s).withStatus 1
  | "uname" => uname words s
  | "date" => date words s
  | "cat" => cat words s
  | "tac" => tac words s
  | "rev" => rev words s
  | "head" => head words s
  | "tail" => tail words s
  | "wc" => wc words s
  | "cut" => cut words s
  | "paste" => paste words s
  | "comm" => comm words s
  | "nl" => nl words s
  | "fold" => fold words s
  | "uniq" => uniq words s
  | "tee" => tee words s
  | "yes" => yes words s
  | "sort" => sort words s
  | "tr" => exchange words s
  | "grep" => grepWith 'G' words s
  | "egrep" => grepWith 'E' words s
  | "fgrep" => grepWith 'F' words s
  | "sed" => sed words s
  | "dirname" => dirname words s
  | "basename" => basename words s
  | "pwd" => pwd words s
  | "mkdir" => mkdir words s
  | "rmdir" => rmdir words s
  | "rm" => rm words s
  | "unlink" => unlink words s
  | "touch" => touch words s
  | "truncate" => truncate words s
  | "chmod" => chmod words s
  -- there is one user and one group, so nothing changes hands
  | "chown" | "chgrp" => s.withStatus (if words.length < 2 then 1 else 0)
  | "cp" => cp words s
  | "mv" => mv words s
  | "ln" | "link" => ln words s
  | "mktemp" => mktemp words s
  | "ls" | "dir" | "vdir" => ls words s
  | "cmp" => cmp words s
  | "diff" => diff words s
  | "realpath" => realpath words s
  | "readlink" => readlink words s
  | "stat" => stat words s
  | "install" => install words s
  | "dd" => dd words s
  | "split" => split words s
  | "expand" => expand words s
  | "unexpand" => unexpand words s
  | "join" => joinProgram words s
  | "factor" => factor words s
  | "od" => od words s
  | "base64" => base64 words s
  | "md5sum" => digestProgram name md5 words s
  | "sha1sum" => digestProgram name sha1 words s
  | "sha256sum" => digestProgram name sha256 words s
  | "cksum" => cksum words s
  -- the programs that are not carried out
  | _ => s.withStatus (if name = "awk" ∨ name = "mawk" then 2 else 1)

end BenchSweep.Machine.Shell.Utility

import SchemaDrift.Host.Storage

namespace SchemaDrift.FileTree

/-- The directories of an ordinary system. -/
def systemDirectories : List Text :=
  ["/bin", "/boot", "/dev", "/dev/shm", "/etc", "/home", "/lib", "/media", "/mnt", "/opt", "/proc",
    "/root", "/run", "/sbin", "/srv", "/sys", "/tmp", "/usr", "/usr/bin", "/usr/include", "/usr/lib",
    "/usr/local", "/usr/local/bin", "/usr/local/lib", "/usr/local/sbin", "/usr/sbin", "/usr/share",
    "/usr/src", "/var", "/var/cache", "/var/lib", "/var/log", "/var/tmp"].map String.toList

/-- Where programs are looked for that are known by their name alone, in this order. -/
def programDirectories : List Text :=
  ["/usr/local/sbin", "/usr/local/bin", "/usr/sbin", "/usr/bin", "/sbin", "/bin"].map String.toList

/-- The programs of an ordinary system, as far as they are known here. -/
def systemPrograms : List Text :=
  ["[", "arch", "awk", "base64", "basename", "bash", "cat", "chmod", "cksum", "cmp", "comm", "cp", "cut", "dash",
    "date", "dd", "diff", "dirname", "echo", "egrep", "env", "expand", "expr", "factor", "false", "fgrep", "find",
    "fold", "grep", "head", "hostname", "id", "link", "ln", "ls", "mawk", "md5sum", "mkdir", "mktemp", "mv", "nice",
    "nl", "nohup", "nproc", "od", "paste", "printenv", "printf", "pwd", "readlink", "realpath", "rev", "rm",
    "rmdir", "sed", "seq", "sh", "sha1sum", "sha256sum", "sleep", "sort", "split", "stat", "sum", "sync", "tac",
    "tail", "tee", "test", "timeout", "touch", "tr", "true", "truncate", "tty", "uname", "uniq", "unlink", "wc",
    "which", "whoami", "xargs", "yes"].map String.toList

def systemFiles : List Text :=
  ["/etc/group", "/etc/hostname", "/etc/hosts", "/etc/os-release", "/etc/passwd",
    "/etc/resolv.conf"].map String.toList

def systemDevices : List (Text × Device) :=
  [("/dev/full", .full), ("/dev/null", .null), ("/dev/random", .null), ("/dev/stderr", .errors),
    ("/dev/stdin", .input), ("/dev/stdout", .output), ("/dev/tty", .null), ("/dev/urandom", .null),
    ("/dev/zero", .null)]

/-- An ordinary system around an empty working directory. -/
def ofSystem (home : Location) : FileTree :=
  let location (path : Text) : Location := (path.splitOn '/').drop 1
  let placed (e : FileEntry) (path : Text) : Location × FileEntry := (location path, e)
  let inDirectory (directory : Text) : List (Location × FileEntry) :=
    systemPrograms.map fun name => placed (.program name) (directory ++ name)
  let entries := systemDirectories.map (placed .directory) ++
    systemDevices.map (fun (path, d) => placed (.device d) path) ++
    inDirectory "/bin/" ++ inDirectory "/usr/bin/"
  let t := { empty home with entries := (empty home).entries ++ entries }
  systemFiles.foldl (fun t path => t.putFile (location path) [] false) t

end SchemaDrift.FileTree

import ProgressActions.Machine.Path

/-!
# A machine as it is usually found

The file tree of a small system: programs, devices, a few files about users, and empty directories.
-/

namespace ProgressActions.Machine

/-- The directories that hold other things than programs. -/
def directories : List String :=
  ["/usr/bin", "/usr/sbin", "/usr/lib", "/usr/lib64", "/usr/local/bin", "/usr/local/sbin", "/usr/share",
   "/etc", "/dev/pts", "/dev/shm", "/proc/self/fd", "/home", "/root", "/var/log", "/var/lib", "/opt",
   "/mnt", "/media", "/srv", "/run", "/sys", "/boot"]

def users : String :=
  "root:x:0:0:root:/root:/bin/bash\n" ++
  "daemon:x:1:1:daemon:/usr/sbin:/usr/sbin/nologin\n" ++
  "bin:x:2:2:bin:/bin:/usr/sbin/nologin\n" ++
  "sys:x:3:3:sys:/dev:/usr/sbin/nologin\n" ++
  "sync:x:4:65534:sync:/bin:/bin/sync\n" ++
  "games:x:5:60:games:/usr/games:/usr/sbin/nologin\n" ++
  "man:x:6:12:man:/var/cache/man:/usr/sbin/nologin\n" ++
  "lp:x:7:7:lp:/var/spool/lpd:/usr/sbin/nologin\n" ++
  "mail:x:8:8:mail:/var/mail:/usr/sbin/nologin\n" ++
  "news:x:9:9:news:/var/spool/news:/usr/sbin/nologin\n" ++
  "uucp:x:10:10:uucp:/var/spool/uucp:/usr/sbin/nologin\n" ++
  "proxy:x:13:13:proxy:/bin:/usr/sbin/nologin\n" ++
  "www-data:x:33:33:www-data:/var/www:/usr/sbin/nologin\n" ++
  "backup:x:34:34:backup:/var/backups:/usr/sbin/nologin\n" ++
  "list:x:38:38:Mailing List Manager:/var/list:/usr/sbin/nologin\n" ++
  "irc:x:39:39:ircd:/run/ircd:/usr/sbin/nologin\n" ++
  "_apt:x:42:65534::/nonexistent:/usr/sbin/nologin\n" ++
  "nobody:x:65534:65534:nobody:/nonexistent:/usr/sbin/nologin\n"

def groups : String :=
  "root:x:0:\ndaemon:x:1:\nbin:x:2:\nsys:x:3:\nadm:x:4:\ntty:x:5:\ndisk:x:6:\nlp:x:7:\nmail:x:8:\n" ++
  "news:x:9:\nuucp:x:10:\nman:x:12:\nproxy:x:13:\nkmem:x:15:\nwww-data:x:33:\nbackup:x:34:\n" ++
  "list:x:38:\nirc:x:39:\nsrc:x:40:\nshadow:x:42:\nutmp:x:43:\nvideo:x:44:\nsasl:x:45:\n" ++
  "plugdev:x:46:\nstaff:x:50:\ngames:x:60:\nusers:x:100:\nnogroup:x:65534:\n"

/-- The files of the system with their contents. -/
def files : List (String × String) :=
  [("/etc/passwd", users), ("/etc/group", groups), ("/etc/hostname", "localhost\n"),
   ("/etc/hosts", "127.0.0.1\tlocalhost\n::1\tlocalhost ip6-localhost ip6-loopback\n"),
   ("/etc/shells", "# /etc/shells: valid login shells\n/bin/sh\n/bin/bash\n"),
   ("/etc/fstab", "# UNCONFIGURED FSTAB FOR BASE SYSTEM\n")]

def namesOf (path : String) : List Octets := Path.names path.toList

/-- Makes a directory, and those on the way to it. -/
def addDirectory (m : Machine) (path : String) : Machine :=
  let made := m.addFile root .null 0o644 (namesOf path ++ [".keep".toList])
  match made.lookup true root path.toList with
  | .ok id => made.removeEntry id ".keep".toList
  | .error _ => made

/-- Sets the permissions of what a path leads to. -/
def setMode (m : Machine) (path : String) (mode : Nat) : Machine :=
  match m.lookup true root path.toList with
  | .ok id => m.modifyNode id fun n ↦ { n with mode }
  | .error _ => m

def devices : List (String × Body) :=
  [("/dev/null", .null), ("/dev/zero", .zero), ("/dev/full", .full), ("/dev/tty", .absent),
   ("/dev/stdin", .link "/proc/self/fd/0".toList), ("/dev/stdout", .link "/proc/self/fd/1".toList),
   ("/dev/stderr", .link "/proc/self/fd/2".toList), ("/dev/fd", .link "/proc/self/fd".toList)] ++
    (List.range 10).map fun n ↦ ("/proc/self/fd/" ++ toString n, .descriptor n)

/-- The links at the top of the file tree. -/
def topLinks : List (String × String) :=
  [("bin", "usr/bin"), ("sbin", "usr/sbin"), ("lib", "usr/lib"), ("lib64", "usr/lib64")]

/-- A machine with the files of a small system and with programs. -/
def standard (programs : List String) : Machine :=
  let start : Machine := { now := 1700000000, lastProcess := 1000, running := [1, 1000] }
  let withDirectories := directories.foldl addDirectory start
  let withPrograms := programs.foldl (fun m name ↦
    m.addFile root (.program name.toList) 0o755 (namesOf ("/usr/bin/" ++ name))) withDirectories
  let withFiles := files.foldl (fun m (path, text) ↦
    m.addFile root (.file text.toUTF8) 0o644 (namesOf path)) withPrograms
  let withDevices := devices.foldl (fun m (path, body) ↦
    m.addFile root body 0o666 (namesOf path)) withFiles
  let withLinks := topLinks.foldl (fun m (name, target) ↦
    (m.create root name.toList (.link target.toList) 0o777).2) withDevices
  let places := ["/tmp", "/var/tmp"].foldl addDirectory withLinks
  (setMode (setMode (setMode places "/tmp" 0o1777) "/var/tmp" 0o1777) "/root" 0o700)

end ProgressActions.Machine

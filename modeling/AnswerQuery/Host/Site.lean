import AnswerQuery.Host.Catalogue
import AnswerQuery.Host.Service
import AnswerQuery.System.Basic

/-! The files that a machine begins with. -/

namespace AnswerQuery.Host

/-- The directory in which programs are found. -/
def programPlace : List Raw :=
  ["usr", "bin"].map String.toList

/-- The links that there are, each with its directory, its name and the path it stands for. -/
def links : List (List String × String × String) :=
  [([], "bin", "usr/bin"), ([], "sbin", "usr/sbin"), ([], "lib", "usr/lib"), ([], "lib64", "usr/lib64"),
    (["usr", "bin"], "sh", "dash"), (["usr", "bin"], "awk", "/etc/alternatives/awk"),
    (["usr", "bin"], "nawk", "/etc/alternatives/nawk"), (["etc", "alternatives"], "awk", "/usr/bin/mawk"),
    (["etc", "alternatives"], "nawk", "/usr/bin/mawk"), (["usr", "bin"], "which", "/etc/alternatives/which"),
    (["etc", "alternatives"], "which", "/usr/bin/which.debianutils"), (["var"], "run", "/run"),
    (["dev"], "fd", "/proc/self/fd"), (["dev"], "stdin", "/proc/self/fd/0"), (["dev"], "stdout", "/proc/self/fd/1"),
    (["dev"], "stderr", "/proc/self/fd/2")]

/-- The directory that programs are run in. -/
def workingPlace : List Raw :=
  ["tmp", "work"].map String.toList

/-- The directory that a user is at home in. -/
def homePlace : List Raw :=
  ["home", "user"].map String.toList

/-- The other directories that there are. -/
def otherPlaces : List (List Raw) :=
  [["boot"], ["dev", "pts"], ["dev", "shm"], ["etc", "alternatives"], ["media"], ["mnt"], ["opt"], ["proc", "self", "fd"],
    ["root"], ["run"], ["srv"], ["sys"], ["usr", "games"], ["usr", "include"], ["usr", "lib"], ["usr", "lib64"],
    ["usr", "libexec"], ["usr", "local", "bin"], ["usr", "local", "lib"], ["usr", "local", "share"], ["usr", "sbin"],
    ["usr", "share"], ["usr", "src"], ["var", "cache"], ["var", "lib"], ["var", "log"], ["var", "tmp"]].map
    (List.map String.toList)

/-- The devices and their names. -/
def devices : List (String × Device) :=
  [("null", .null), ("zero", .zero), ("full", .full), ("tty", .terminal)]

/-- The users and what is known of them. -/
def userLines : List String :=
  ["root:x:0:0:root:/root:/bin/bash", "daemon:x:1:1:daemon:/usr/sbin:/usr/sbin/nologin",
    "bin:x:2:2:bin:/bin:/usr/sbin/nologin", "sys:x:3:3:sys:/dev:/usr/sbin/nologin",
    "sync:x:4:65534:sync:/bin:/bin/sync", "games:x:5:60:games:/usr/games:/usr/sbin/nologin",
    "man:x:6:12:man:/var/cache/man:/usr/sbin/nologin", "lp:x:7:7:lp:/var/spool/lpd:/usr/sbin/nologin",
    "mail:x:8:8:mail:/var/mail:/usr/sbin/nologin", "news:x:9:9:news:/var/spool/news:/usr/sbin/nologin",
    "uucp:x:10:10:uucp:/var/spool/uucp:/usr/sbin/nologin", "proxy:x:13:13:proxy:/bin:/usr/sbin/nologin",
    "www-data:x:33:33:www-data:/var/www:/usr/sbin/nologin", "backup:x:34:34:backup:/var/backups:/usr/sbin/nologin",
    "list:x:38:38:Mailing List Manager:/var/list:/usr/sbin/nologin", "irc:x:39:39:ircd:/run/ircd:/usr/sbin/nologin",
    "_apt:x:42:65534::/nonexistent:/usr/sbin/nologin", "nobody:x:65534:65534:nobody:/nonexistent:/usr/sbin/nologin",
    "user:x:1000:1000::/home/user:/bin/sh"]

/-- The groups of users. -/
def groupLines : List String :=
  ["root:x:0:", "daemon:x:1:", "bin:x:2:", "sys:x:3:", "adm:x:4:", "tty:x:5:", "disk:x:6:", "lp:x:7:", "mail:x:8:",
    "news:x:9:", "uucp:x:10:", "man:x:12:", "proxy:x:13:", "kmem:x:15:", "dialout:x:20:", "fax:x:21:", "voice:x:22:",
    "cdrom:x:24:", "floppy:x:25:", "tape:x:26:", "sudo:x:27:", "audio:x:29:", "dip:x:30:", "www-data:x:33:",
    "backup:x:34:", "operator:x:37:", "list:x:38:", "irc:x:39:", "src:x:40:", "shadow:x:42:", "utmp:x:43:", "video:x:44:",
    "sasl:x:45:", "plugdev:x:46:", "staff:x:50:", "games:x:60:", "users:x:100:", "nogroup:x:65534:", "user:x:1000:"]

/-- The files that there are from the start: the directory, the name and the lines of each. -/
def givenFiles : List (List String × String × List String) :=
  [(["etc"], "passwd", userLines), (["etc"], "group", groupLines), (["etc"], "hostname", ["host"]),
    (["etc"], "hosts", ["127.0.0.1\tlocalhost"]), (["etc"], "shells", ["# /etc/shells: valid login shells", "/bin/sh",
      "/usr/bin/sh", "/bin/bash", "/usr/bin/bash", "/bin/rbash", "/usr/bin/rbash", "/usr/bin/dash"])]

/-- The octets of lines. -/
def lineOctets (lines : List String) : ByteArray :=
  ⟨((lines.map fun line => Utf8.encode (line.toList ++ ['\n'])).flatten).toArray⟩

/-- How many milliseconds after the beginning of 1970 a machine begins. -/
def startClock : Nat := 1767225600000

/-- The files that a machine begins with, and the node of the working directory. -/
def startFiles : Files × Nat :=
  let start := { Files.bare with now := Int.ofNat startClock * Machine.nanosecondsPerMillisecond }
  let files := otherPlaces.foldl (fun files place => (files.provideDirectory 0 place).2) start
  let files := provided.foldl (fun files program =>
    files.provide programPlace program.1 (.program program.1) 0o755) files
  let files := devices.foldl (fun files (name, device) =>
    files.provide ["dev".toList] name.toList (.device device) 0o666) files
  let files := (List.range firstPrivate).foldl (fun files number =>
    files.provide ["proc".toList, "self".toList, "fd".toList] (decimal number) (.device (.descriptor number)) 0o666) files
  let files := links.foldl (fun files (place, name, target) =>
    files.provide (place.map String.toList) name.toList (.link target.toList) 0o777) files
  let files := givenFiles.foldl (fun files (place, name, lines) =>
    files.provide (place.map String.toList) name.toList (.file (lineOctets lines)) 0o644) files
  let (temporary, files) := files.provideDirectory 0 ["tmp".toList]
  let files := files.modify temporary fun node => { node with mode := 0o777 }
  let (working, files) := files.provideDirectory 0 workingPlace
  let (home, files) := files.provideDirectory 0 homePlace
  let own := fun (node : Node) => { node with foreign := false }
  ((files.modify working own).modify home own, working)

/-- A machine on which nothing has been run. -/
def startMachine : Machine where
  files := startFiles.1
  opened := #[]
  pipes := #[]
  processes := []
  statuses := []
  reaped := []
  held := []
  next := 1000
  clock := startClock

/-- The node of the working directory of a machine on which nothing has been run. -/
def startWorking : Nat :=
  startFiles.2

end AnswerQuery.Host

/-! A machine as an operating system for pipelines, seen from a process that starts others on it. -/

namespace AnswerQuery.Host

/-- A machine, and a process on it that starts others. -/
structure Site where
  /-- The machine. -/
  machine : Machine
  /-- The working directory of the process. -/
  working : Nat
  /-- Its environment variables. -/
  bindings : List (Raw × Raw)
  /-- What it reads. -/
  input : Channel
  /-- Where it writes. -/
  output : Channel
  /-- Where it writes what goes wrong. -/
  errors : Channel
  /-- The files it has opened for writing. -/
  targets : Array Channel := #[]

namespace Site

/-- What the descriptors of a process stand for that is started here. -/
def descriptors (site : Site) (input output : Channel) : List (Nat × Channel) :=
  [(0, input), (1, output), (2, site.errors)]

/-- Write to a channel that stands for a file. -/
def writeTo (machine : Machine) (octets : Bytes) : Channel → Machine
  | .file number => machine.writeOpened number octets
  | _ => machine

/-- Open a file for writing and empty it. -/
def create (path : Text) (site : Site) : Except OsError OutputFile × Site :=
  let opening : Files.Opening := { Files.Opening.writing with mode := 0o644 }
  match site.machine.openFile (site.descriptors site.input site.output) site.working (Raw.ofText path) opening with
  | .error reason => (.error reason, site)
  | .ok (channel, machine) =>
    (.ok ⟨site.targets.size⟩, { site with machine, targets := site.targets.push channel })

/-- A process that is started here. -/
def newProcess (site : Site) (program : Program) (input output : Channel) : Process where
  identity := site.machine.next
  parent := 1
  program
  descriptors := site.descriptors input output
  working := site.working
  bindings := site.bindings

/-- Start a program; the read end of a new pipe is held until it is closed. -/
def launch (stage : Stage) (inlet : Inlet) (outlet : Outlet) (site : Site) : Except OsError Started × Site :=
  let machine := site.machine
  match Machine.loadNamed programs machine.files site.working site.bindings (Raw.ofText stage.program)
      (stage.arguments.map Raw.ofText) with
  | .error reason => (.error reason, site)
  | .ok program =>
    let input := match inlet with
      | .inherited => site.input
      | .pipe source => .source source.handle
    let pipe := machine.pipes.size
    let (output, source, machine) : Channel × Option PipeEnd × Machine := match outlet with
      | .inherited => (site.output, none, machine)
      | .file target => (site.targets.getD target.handle (.device .null), none, machine)
      | .pipe => (.target pipe, some ⟨pipe⟩,
        { machine with pipes := machine.pipes.push {}, held := pipe :: machine.held })
    let child := machine.next
    (.ok ⟨⟨child⟩, source⟩, { site with machine := machine.start (site.newProcess program input output) })

/-- Wait until a process that was started on the machine has ended. -/
def wait (child : Child) (site : Site) : Except OsError ExitStatus × Site :=
  if site.machine.knows child.handle then
    let (status, machine) := site.machine.runUntil programs child.handle Job.patience
    (.ok status, { site with machine })
  else (.error .noChild, site)

/-- The operating system that a machine is to pipelines. -/
def system : System Site where
  hasEntry := fun site path => (site.machine.files.inspect site.working (Raw.ofText path) true).toBool
  create := create
  launch := launch
  close := fun source site =>
    ((), { site with machine := { site.machine with held := site.machine.held.erase source.handle } })
  wait := wait
  report := fun text site => ((), { site with machine := writeTo site.machine (Utf8.encode text) site.errors })

end Site

end AnswerQuery.Host

/-
Starting a program on the machine.

Programs start programs, and scripts are started by starting their interpreter, so starting recurses
on how many more starts may follow from one.
-/
import AliasShell.Machine.Image
import AliasShell.Machine.Tools.Table

namespace AliasShell.Machine

/-- How many starts may follow from one. -/
def startLimit : Nat := 5000

/-- The length from which on an argument is too long, with the mark at its end. -/
def argumentLimit : Nat := 131072

/-- How much all arguments and the environment may be together. -/
def totalLimit : Nat := 2097152

/-- There is too much for a program to be started with. -/
def isTooMuch (p : Process) : Bool :=
  let sizes := (p.args.map List.length) ++ p.env.entries.map List.length
  sizes.any (argumentLimit ≤ · + 1) || totalLimit ≤ sizes.foldl (fun n k => n + k + 9) 0

/-- Starts the program file at a path. -/
def startFile : Nat → Starter
  | 0, _, _ => .error .tooManyLinks
  | n + 1, path, p => do
    let plan ← Image.resolve p.files Image.scriptLimit path p.name p.args
    match Tools.ofName? (startFile n) plan.tool with
    | some run =>
      if isTooMuch p then throw .tooMuch
      let p := { p with name := plan.name, args := plan.args }
      let a := run p
      if (Tools.starting.lookup plan.tool).isSome then return a
      else
        let (fault, code) := Tools.writeFault plan.tool
        return p.limited fault code a
    | none => throw .notExecutable

/-- Starts the program that a process is named for. -/
def start (p : Process) : Except SysError Aftermath :=
  Search.startNamed (startFile startLimit) p

/-! ### Bytes and characters

The machine knows bytes where the shell knows characters, so what the shell asks for is written in
bytes, and the names that programs leave behind are read as characters again. -/

/-- A text with a character for each byte of its encoding. -/
def narrow (t : Text) : Text := Bytes.numbered t.encode

/-- The text that characters for bytes encode. -/
def widen (t : Text) : Text := Bytes.shown t.bytes

/-- A node with its target written in another way. -/
def nodeWith (f : Text → Text) : Node → Node
  | .link target t => .link (f target) t
  | node => node

/-- Files with names and targets written in another way. -/
def filesWith (f : Text → Text) (fs : Files) : Files :=
  { fs with
    nodes := fs.nodes.map fun (loc, node) => (loc.map f, nodeWith f node)
    current := fs.current.map f }

/-! ### Requests -/

/-- The reason for which nothing starts in a directory that is not there. -/
def noDirectory (cwd : Text) : Text := "working directory " ++ cwd ++ " does not exist"

/-- Starts what a request asks for. -/
def answer (fs : Files) (input : Bytes) (r : Request) : Except LaunchError Aftermath :=
  match fs.locateWhole r.cwd with
  | .ok cwd =>
    if !fs.isDirAt cwd then .error (.failed r.program (noDirectory r.cwd))
    else if '\x00' ∈ r.program ∨ r.args.any (·.contains '\x00') then
      .error (.failed r.program SysError.nulInArgument.message)
    else
      let p : Process :=
        { name := narrow r.program
          args := r.args.map narrow
          env := .ofList r.env
          files := filesWith narrow { fs with current := cwd }
          input }
      match start p with
      | .ok a => .ok a
      | .error .notFound => .error (.notFound r.program)
      | .error e => .error (.failed r.program e.message)
  | .error _ => .error (.failed r.program (noDirectory r.cwd))

/-- Everything that was written to a channel, at last by what was left running. -/
def heard (a : Aftermath) (c : Channel) : Bytes :=
  a.transcript.on c ++ (a.later.filter (·.channel == c)).flatMap Echo.data

/-- The launcher that runs programs on the machine. -/
def launcher : Launcher where
  run fs input _ r :=
    match answer fs input r with
    | .ok a =>
      { answer := .ok a.ending
        files := { filesWith widen a.files with current := fs.current, mask := fs.mask }
        input := a.input
        output := heard a .output
        errors := heard a .errors }
    | .error e => ⟨.error e, fs, input, [], []⟩

theorem answer_standingAt (fs : Files) (place : Location) (input : Bytes) {r : Request}
    (hr : Path.isAbsolute r.cwd = true) :
    answer (fs.standingAt place) input r = answer fs input r := by
  unfold answer
  rw [Files.locateWhole_standingAt fs place hr]
  rfl

/-- Its programs start in the directory of their request. -/
theorem launcher_ignoresPlace : launcher.IgnoresPlace := by
  intro fs place input past r hr
  unfold launcher
  simp only [answer_standingAt fs place input hr]
  cases answer fs input r with
  | ok a => rfl
  | error e => rfl

/-! ### The files it begins with -/

/-- The directories that every machine has, and with them those above them. -/
def standardDirs : List Text :=
  ["/boot", "/dev/pts", "/dev/shm", "/etc", "/home", "/media", "/mnt", "/opt", "/proc/self/fd",
    "/root", "/run/lock", "/srv", "/sys", "/tmp", "/usr/bin", "/usr/games", "/usr/include",
    "/usr/lib", "/usr/lib64", "/usr/libexec", "/usr/local/bin", "/usr/local/etc",
    "/usr/local/games", "/usr/local/include", "/usr/local/lib", "/usr/local/sbin",
    "/usr/local/share/man", "/usr/local/src", "/usr/sbin", "/usr/share", "/usr/src",
    "/var/backups", "/var/cache", "/var/lib", "/var/local", "/var/log", "/var/mail", "/var/opt",
    "/var/spool", "/var/tmp"].map String.toList

/-- The links that every machine has. -/
def shortcuts : List (Text × Text) :=
  [("/bin", "usr/bin"), ("/sbin", "usr/sbin"), ("/lib", "usr/lib"), ("/lib64", "usr/lib64"),
    ("/usr/local/man", "share/man"), ("/var/lock", "/run/lock"), ("/var/run", "/run"),
    ("/dev/fd", "/proc/self/fd"), ("/dev/stdin", "/proc/self/fd/0"),
    ("/dev/stdout", "/proc/self/fd/1"), ("/dev/stderr", "/proc/self/fd/2")]

/-- The devices.  What is written by these names to the output or as a complaint is dealt with by
those who write. -/
def devices : List (Text × Device) :=
  [("/dev/null", .null), ("/dev/zero", .zeros), ("/dev/full", .full), ("/dev/random", .zeros),
    ("/dev/urandom", .zeros), ("/dev/tty", .terminal), ("/dev/ptmx", .null),
    ("/proc/self/fd/0", .input), ("/proc/self/fd/1", .null), ("/proc/self/fd/2", .null)]

/-- The files that tell of the machine and its users. -/
def records : List (Text × Text) :=
  [("/etc/passwd", "root:x:0:0:root:/root:/bin/bash\n"), ("/etc/group", "root:x:0:\n"),
    ("/etc/hosts", "127.0.0.1\tlocalhost\n"), ("/etc/hostname", "localhost\n"),
    ("/etc/resolv.conf", []), ("/etc/fstab", []), ("/etc/profile", []),
    ("/etc/shells", "/bin/sh\n")]

/-- The time at which it begins. -/
def beginning : Moment := .ofSeconds 1767225600

/-- A machine with its tools and nothing else. -/
def files : Files :=
  let fs := standardDirs.foldl (fun fs dir => fs.create dir (.ofDir 0)) Files.empty
  let fs := shortcuts.foldl (fun fs (name, target) => fs.create name (.link target 0)) fs
  let fs := devices.foldl (fun fs (name, device) => fs.create name (.device device)) fs
  let fs := records.foldl (fun fs (name, t) => fs.create name (.ofFile t.encode false 0)) fs
  let fs := Tools.names.foldl
    (fun fs name => fs.create ("/usr/bin/" ++ name) (.ofFile (Image.toolData name) true 0)) fs
  { fs with now := beginning }

end AliasShell.Machine

/-
**Starting up and winding down.**

The program starts a server, makes a root authority and an intermediate one under it, and registers
the certificates and the status answers of both.  When it is told to stop, it gives the registrations
up and stops the server.

Main definitions:

* `Startup.Chances` — what is drawn for a start;
* `Startup.metricsAddress?` — where metrics are to be read;
* `Startup.Running`, `Startup.begin`, `Startup.finish`;
* `Startup.Failure`, `Startup.Failure.summary`, `Startup.Failure.exit`;
* `Startup.report` — what the program prints for its arguments.
-/

import RevocationLab.CommandLine
import RevocationLab.LogFilter
import RevocationLab.Rsa.Generate
import RevocationLab.Server
import RevocationLab.Settings.Reading

set_option autoImplicit false

namespace RevocationLab

namespace Startup

/-! ### Starting -/

/-- What is drawn for a start: the port that is given where the settings ask for any, pairs of numbers
to look for primes from, and the draws of the two authorities. -/
structure Chances where
  freePort : Nat
  rootKeys : List (Nat × Nat)
  intermediateKeys : List (Nat × Nat)
  root : Authority.Draws
  intermediate : Authority.Draws

/-- Why the program does not run. -/
inductive Failure where
  | settings (cause : Settings.LoadError)
  /-- Metrics are enabled at a text that is no address. -/
  | metricsAddress
  | server (cause : Connection.BindError)
  | key
  /-- The settings ask for a lifetime with too many seconds: the program breaks off. -/
  | lifetime
  | authority (cause : Authority.Error)
  | registration (cause : Routing.RegistrationError)
  deriving DecidableEq

/-- What runs: the server, the laboratory, and the registrations that are held. -/
structure Running where
  server : Server
  lab : Lab
  registrations : List Routing.Registration

/-- The version of the program. -/
def version : String := "0.1.0"

/-- An event of the program itself. -/
def note (l : Lab) (message : String) (fields : List (String × String)) : Lab :=
  { l with desk := l.desk.note ⟨.info, LogFilter.ownTarget, message, fields⟩ }

/-- Registers the two responders of the authority at a place. -/
def announce (r : Running) (place : Nat) : Lab × Except Failure Running :=
  match r.lab.authorities.get? place with
  | none => (r.lab, .error (.authority .absent))
  | some a =>
      match r.lab.register (Responder.certificateOf a) with
      | (l, .error cause) => (l, .error (.registration cause))
      | (l, .ok first) =>
          match l.register (Responder.ocspOf place a) with
          | (l, .error cause) => (l, .error (.registration cause))
          | (l, .ok second) =>
              let l := note l "Authority ready"
                [("authority", a.id.toText), ("subject", a.subject.toText),
                  ("certificate_url", a.certificateUrl.toText), ("ocsp_url", a.ocspUrl.toText)]
              (l, .ok { r with lab := l, registrations := r.registrations ++ [first, second] })

/-- Makes both authorities and registers their responders. -/
def populate (r : Running) (settings : Settings.Authority) (base : Url)
    (rootKey intermediateKey : Rsa.KeyPair) (c : Chances) (now : Instant) :
    Lab × Except Failure Running :=
  match settings.lifetime? with
  | none => (r.lab, .error .lifetime)
  | some lifetime =>
      let rootPlan : Authority.Plan := ⟨settings.commonName, lifetime, rootKey⟩
      let intermediatePlan : Authority.Plan :=
        ⟨settings.commonName ++ " Intermediate", lifetime, intermediateKey⟩
      match r.lab.createRoot base rootPlan c.root now with
      | (l, .error cause) => (l, .error (.authority cause))
      | (l, .ok root) =>
          match l.createIntermediate root intermediatePlan c.intermediate now with
          | (l, .error cause) => (l, .error (.authority cause))
          | (l, .ok intermediate) =>
              match announce { r with lab := l } root with
              | (l, .error cause) => (l, .error cause)
              | (_, .ok r) => announce r intermediate

/-- The address at which metrics are to be read, if they are enabled. -/
def metricsAddress? (s : Settings.Observability) : Except Failure (Option SocketAddress) :=
  if s.metricsEnabled then
    match SocketAddress.ofText? s.metricsAddress with
    | none => .error .metricsAddress
    | some address => .ok (some address)
  else .ok none

/-- An event for the address at which metrics are read. -/
def noteMetrics (l : Lab) : Option SocketAddress → Lab
  | none => l
  | some address =>
      l.note .info "observability::metrics" "Metrics exporter listening"
        [("address", address.toText)]

/-- Starts the program: what was written down, and what runs. -/
def begin (settings : Settings) (c : Chances) (now : Instant) : Lab × Except Failure Running :=
  let l := note {} s!"{CommandLine.programName} v{version} starting" []
  match metricsAddress? settings.observability with
  | .error cause => (l, .error cause)
  | .ok address? =>
      let l := noteMetrics l address?
      match Server.start settings c.freePort l with
      | .error cause => (l, .error (.server cause))
      | .ok (server, l) =>
          let bits := settings.authority.keyBits
          match Rsa.KeyPair.search? bits c.rootKeys, Rsa.KeyPair.search? bits c.intermediateKeys,
              server.base? with
          | some rootKey, some intermediateKey, some base =>
              populate ⟨server, l, []⟩ settings.authority base rootKey intermediateKey c now
          | _, _, _ => (l, .error .key)

/-- Stops the program. -/
def finish (r : Running) : Lab :=
  let l := note r.lab "Shutdown signal received" []
  let l := r.registrations.foldl Lab.release l
  note (r.server.stop l).2 "Shutdown complete" []

/-! ### What is printed -/

/-- A failure in short, as the program reports it when it gives up. -/
def Failure.summary : Failure → String
  | settings (.file .missing) =>
      "Error: Io(Os \x7b code: 2, kind: NotFound, message: \"No such file or directory\" \x7d)\n"
  | settings (.file .notUtf8) =>
      "Error: Io(Error \x7b kind: InvalidData, message: \"stream did not contain valid UTF-8\" \x7d)\n"
  | settings .parse => "Error: Parse"
  | settings (.invalid problems) =>
      "Error: Validation([" ++ String.intercalate ", " (problems.map Settings.Problem.summary)
        ++ "])\n"
  | metricsAddress => "Error: AddrParseError(Socket)\n"
  | server .permits => Connection.BindError.permits.message ++ "\n"
  | server cause => "Error: Listener(" ++ cause.message ++ ")\n"
  | key => "Error: Key(TooFewPrimes)\n"
  | lifetime => "attempt to multiply with overflow\n"
  | authority .unwritable => "Error: Der"
  | authority .clockOverflow => Instant.overflowText ++ "\n"
  | authority cause => "Error: " ++ cause.message ++ "\n"
  | registration cause => "Error: UnroutablePath(" ++ Quoted.text cause.path ++ ")\n"

/-- The exit code of a program with the lines and the text that it prints. -/
structure Report where
  exit : Nat
  stdout : List String
  stderr : String
  deriving DecidableEq, Repr

/-- The lines of the events that the settings let through. -/
def printed (settings : Settings) (events : List Log.Event) : List String :=
  let filter := LogFilter.ofLevel settings.observability.logLevel
  (events.filter filter.keeps).map Log.Event.line

/-- The exit code of a program that gave up.  Too many permits and times that overflow are not errors
that are returned: the program breaks off. -/
def Failure.exit : Failure → Nat
  | server .permits => 101
  | lifetime => 101
  | authority .clockOverflow => 101
  | _ => 1

/-- The report of a program that gave up. -/
def Failure.report (f : Failure) (lines : List String) : Report := ⟨f.exit, lines, f.summary⟩

/-- What is to be done for some arguments: a report at once, or settings to start with. -/
def plan (arguments : List String) (file : String → Option Octets) : Except Report Settings :=
  match CommandLine.parse arguments with
  | .error e => .error ⟨2, [], e.message⟩
  | .ok .help => .error ⟨0, CommandLine.helpText, ""⟩
  | .ok (.serve none) => .ok {}
  | .ok (.serve (some path)) =>
      match Settings.load (file path) with
      | .error cause => .error (Failure.report (.settings cause) [])
      | .ok settings => .ok settings

/-- What the program prints when it is told to stop as soon as it is ready, and whether it ever
was. -/
def report (arguments : List String) (file : String → Option Octets) (c : Chances) (now : Instant) :
    Report × Bool :=
  match plan arguments file with
  | .error r => (r, false)
  | .ok settings =>
      match begin settings c now with
      | (l, .error f) => (f.report (printed settings l.desk.log), false)
      | (_, .ok running) => (⟨0, printed settings (finish running).desk.log, ""⟩, true)

end Startup

end RevocationLab

/-
**The program.**

Reads its arguments and the file that they name, draws what has to be drawn, starts, and stops when
the standard input ends.

Main definitions:

* `main`.
-/

import RevocationLab.Startup
import Std.Time.DateTime.Timestamp

set_option autoImplicit false

open RevocationLab

/-- A drawn number of some octets. -/
def drawNumber (octets : Nat) : IO Nat := do
  return Octets.toNat (← IO.getRandomBytes octets.toUSize).toList

/-- Pairs of drawn numbers to look for the primes of a key from. -/
def drawPairs (count octets : Nat) : IO (List (Nat × Nat)) :=
  (List.range count).mapM fun _ => do return (← drawNumber octets, ← drawNumber octets)

/-- What is drawn for an authority. -/
def drawAuthority : IO Authority.Draws := do
  return ⟨(← IO.getRandomBytes 16).toList, (← IO.getRandomBytes 16).toList⟩

/-- What is drawn for a start with keys of some bits. -/
def drawChances (bits : Nat) : IO Startup.Chances := do
  let octets := bits / 16 + 1
  return ⟨49152 + (← drawNumber 2) % 16384, ← drawPairs 64 octets, ← drawPairs 64 octets,
    ← drawAuthority, ← drawAuthority⟩

/-- The content of the file at a path, if there is one. -/
def readFile? (path : String) : IO (Option Octets) := do
  try
    return some (← IO.FS.readBinFile path).toList
  catch _ => return none

/-- The path of the settings that some arguments name. -/
def settingsPath? (arguments : List String) : Option String :=
  match CommandLine.parse arguments with
  | .ok (.serve path) => path
  | _ => none

/-- Prints the lines and the text of a report, and gives its exit code. -/
def printReport (r : Startup.Report) : IO UInt32 := do
  r.stdout.forM IO.println
  IO.eprint r.stderr
  return UInt32.ofNat r.exit

/-- Waits for the end of the standard input. -/
def waitForEnd : IO Unit := do
  let _ ← (← IO.getStdin).readToEnd

/-- Runs the program. -/
def main (arguments : List String) : IO UInt32 := do
  let content ← match settingsPath? arguments with
    | some path => readFile? path
    | none => pure none
  match Startup.plan arguments fun _ => content with
  | .error report => printReport report
  | .ok settings =>
      let chances ← drawChances settings.authority.keyBits
      let seconds := (← Std.Time.Timestamp.now).toSecondsSinceUnixEpoch.val.toNat
      match Startup.begin settings chances (Instant.ofSeconds seconds) with
      | (l, .error failure) => printReport (failure.report (Startup.printed settings l.desk.log))
      | (_, .ok running) =>
          let lines := Startup.printed settings running.lab.desk.log
          lines.forM IO.println
          waitForEnd
          let all := Startup.printed settings (Startup.finish running).desk.log
          (all.drop lines.length).forM IO.println
          return 0

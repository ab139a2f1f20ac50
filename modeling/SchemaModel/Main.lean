import Std.Time.DateTime.Timestamp
import SchemaModel.CommandLine.Plan

/-!
# `SchemaModel.Main` — the command line program

Reads the files that an invocation asks for, carries out its plan and prints what comes of it.
Everything else is decided in `SchemaModel.CommandLine.Plan`.
-/

namespace SchemaModel.CommandLine

/-- The text of a file, or why there is none. -/
def readSource (path : String) : IO (Except String String) := do
  try
    return .ok (← IO.FS.readFile path)
  catch e => return .error (toString e)

/-- Writes what a plan keeps. -/
def writeKept (kept : Option (String × String)) : IO (Except String Unit) := do
  match kept with
  | none => return .ok ()
  | some (path, text) =>
    try
      IO.FS.writeFile path text
      return .ok ()
    catch e => return .error (toString e)

/-- Some files that were read. -/
def filesOfList (sources : List (String × Except String String)) : Files := fun path =>
  (sources.lookup path).getD (.error "No such file or directory (os error 2)")

/-- The time. -/
def currentInstant : IO Time.Instant := do
  let now ← Std.Time.Timestamp.now
  return .ofUnix now.val.second.val.toNat now.val.nano.val.toNat

/-- Carries out an invocation. -/
def perform (i : Invocation) : IO Report := do
  let configuration ← readSource i.configuration
  let start ← IO.monoMsNow
  let sources ← (i.sources configuration).mapM fun path => do return (path, ← readSource path)
  let stop ← IO.monoMsNow
  let plan := i.plan
    ⟨filesOfList ((i.configuration, configuration) :: sources), ← currentInstant, stop - start⟩
  return plan.settle (← writeKept plan.keep)

end SchemaModel.CommandLine

open SchemaModel CommandLine in
/-- Runs a command line. -/
def main (words : List String) : IO UInt32 := do
  match Request.ofWords? words with
  | none =>
    IO.eprint helpText
    return 2
  | some .help =>
    IO.print helpText
    return 0
  | some .version =>
    IO.print versionText
    return 0
  | some (.perform i) =>
    let report ← perform i
    if i.showsWarnings then
      for warning in report.log do
        IO.eprintln ("WARN " ++ warning.text)
    IO.print report.output
    if let some e := report.fault then
      IO.eprintln e.report
    return UInt32.ofNat report.exitCode

import AddressRecords.Validation.Program

/-!
The validation program on the command line. It reads the environment and at most one file, and
shows the report. It brings no network of its own, so it reports how a run ends where the API
cannot be reached.
-/

open AddressRecords Validation

namespace AddressRecords.Validation

def describeError : IO.Error → String
  | .noFileOrDirectory .. => "No such file or directory (os error 2)"
  | .permissionDenied .. => "Permission denied (os error 13)"
  | .inappropriateType none .. => "Is a directory (os error 21)"
  | .inappropriateType .. => "Not a directory (os error 20)"
  | error => toString error

def readText (path : String) : IO (Except String String) := do
  match ← (IO.FS.readBinFile path).toBaseIO with
  | .error error => return .error (describeError error)
  | .ok bytes =>
    match String.fromUTF8? bytes with
    | some text => return .ok text
    | none => return .error "stream did not contain valid UTF-8"

/-- The variables that are set, and the text of the one file that settings may name. -/
def currentEnvironment : IO Environment := do
  let values ← Environment.names.filterMapM fun name => do
    return (← IO.getEnv name).map fun value => (name, value)
  let text ← readText ((values.lookup Environment.tokenFile).getD "")
  return ⟨fun name => values.lookup name, fun _ => text⟩

end AddressRecords.Validation

def main : IO UInt32 := do
  let report := (program .unreachable (← currentEnvironment) ()).value
  report.output.forM fun line => IO.println line
  report.complaints.forM fun line => IO.eprintln line
  return UInt32.ofNat report.ending.exitCode

import PeerLink.Program.Run

/-!
# Command line

Runs the program that the first argument names, with the other arguments, on the files and the
standard output of the process. Failures are told on the standard error.
-/

namespace PeerLink

/-- The failure of a file that the system reports. -/
def IoError.ofSystem : IO.Error → IoError
  | .noFileOrDirectory .. => ⟨.notFound, none⟩
  | e => ⟨.other, some (toString e)⟩

/-- The process as the host of a program. -/
def Host.process : Host IO where
  read path := do
    match ← (IO.FS.readBinFile path).toBaseIO with
    | .ok bytes => return .ok bytes.toList
    | .error e => return .error (.ofSystem e)
  write path bytes := do
    match ← (IO.FS.writeBinFile path ⟨bytes.toArray⟩).toBaseIO with
    | .ok _ => return .ok ()
    | .error e => return .error (.ofSystem e)
  print text := do
    let output ← IO.getStdout
    output.putStr text
    output.flush
  random n := do
    return (← IO.getRandomBytes (USize.ofNat n)).toList

end PeerLink

open PeerLink in
/-- Runs a program; the exit code is zero if the task is done. -/
def main (args : List String) : IO UInt32 := do
  match args with
  | [] =>
    IO.eprintln "Name a program: strandd or strandd-cli"
    return 1
  | name :: args =>
    match Program.ofName? name with
    | none =>
      IO.eprintln ("No such program: " ++ name)
      return 1
    | some program =>
      match ← program.run .process args with
      | .success => return 0
      | .failure e =>
        IO.eprintln e.message
        return 1
      | .keyNeeded .. =>
        IO.eprintln "The secret key cannot be derived"
        return 1

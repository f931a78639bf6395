import Folio.Console.Run

/-!
# The program

The computer itself as a host, and the program on it.
-/

namespace Folio

/-- The fault for an error number of the system and its description. A number may stand with the
opposite sign, in thirty-two bits. -/
def faultOfNumber (word : Nat) (details : String) : FileFault :=
  let number := if word < 0x80000000 then word else 0x100000000 - word
  match number with
  | 2 => .missing
  | 17 => .alreadyThere
  | 20 => .notDirectory
  | 21 => .isDirectory
  | 36 => .nameTooLong
  | _ => .other (details.toList ++ " (os error ".toList ++ Text.ofNat number ++ [')'])

/-- The fault that an error of the system is. -/
def faultOfError (error : IO.Error) : FileFault :=
  match error with
  | .alreadyExists _ number details => faultOfNumber number.toNat details
  | .noFileOrDirectory _ number details => faultOfNumber number.toNat details
  | .inappropriateType _ number details => faultOfNumber number.toNat details
  | .invalidArgument _ number details => faultOfNumber number.toNat details
  | .permissionDenied _ number details => faultOfNumber number.toNat details
  | .resourceExhausted _ number details => faultOfNumber number.toNat details
  | .noSuchThing _ number details => faultOfNumber number.toNat details
  | .resourceBusy number details => faultOfNumber number.toNat details
  | .hardwareFault number details => faultOfNumber number.toNat details
  | .unsupportedOperation number details => faultOfNumber number.toNat details
  | .otherError number details => faultOfNumber number.toNat details
  | error => .other (toString error).toList

/-- Does something with files and catches its errors. -/
def attempt {α : Type} (action : IO α) : IO (Except FileFault α) := do
  try
    return .ok (← action)
  catch error =>
    return .error (faultOfError error)

/-- Runs an action for a path that is a name at all. -/
def attemptAt {α : Type} (path : Path) (action : String → IO (Except FileFault α)) :
    IO (Except FileFault α) :=
  if path.isEmpty then return .error .missing
  else if path.contains '\x00' then return .error .badName
  else action (String.ofList path)

/-- Whether something that may fail gives true. -/
def holds (action : IO (Except FileFault Bool)) : IO Bool := do
  return (← action).toOption.getD false

/-- The host that the computer is. -/
def computer : Host IO where
  workingDirectory := do return (← IO.currentDir).toString.toList
  valueOfVariable name :=
    if name.isEmpty || name.contains '\x00' then return none
    else do return (← IO.getEnv (String.ofList name)).map String.toList
  hasEntry path := holds <| attemptAt path fun name => attempt do
    return (← ((← IO.currentDir) / name).pathExists)
  isFile path := holds <| attemptAt path fun name => attempt do
    return (← ((← IO.currentDir) / name).metadata).type == .file
  isDirectory path := holds <| attemptAt path fun name => attempt do
    return (← ((← IO.currentDir) / name).isDir)
  readText path := attemptAt path fun name => do
    match ← attempt (IO.FS.readBinFile name) with
    | .ok octets =>
      match Text.ofUtf8? octets.toList with
      | some content => return .ok content
      | none => return .error .notText
    | .error fault => return .error fault
  writeText path content := attemptAt path fun name =>
    attempt (IO.FS.writeFile name (String.ofList content))
  createDirectory path := attemptAt path fun name => attempt (IO.FS.createDir name)
  print text := do
    let output ← IO.getStdout
    output.putStr (String.ofList text)
    output.flush
  report line := do IO.eprintln (String.ofList line)

end Folio

/-- Runs the program with the arguments of the command line. -/
def main (arguments : List String) : IO UInt32 := do
  return .ofNat (← Folio.Console.run Folio.computer (arguments.map String.toList))

import RpcSharp.Command.Run

/-! The command line. -/

namespace RpcSharp.Command

def faultOf : IO.Error → Files.Fault
  | .noFileOrDirectory .. => .notFound
  | .alreadyExists .. => .alreadyExists
  | .inappropriateType _ 20 _ => .notDirectory
  | .inappropriateType _ 21 _ => .isDirectory
  | .invalidArgument _ 36 _ => .nameTooLong
  | e => .other (toString e)

def attempt {α : Type} (action : IO α) : IO (Except Files.Fault α) := do
  match ← action.toBaseIO with
  | .ok a => return .ok a
  | .error e => return .error (faultOf e)

instance : Host IO where
  read path := attempt do return (← IO.FS.readBinFile path).toList
  write path text := attempt (IO.FS.writeFile path text)
  makeDirectories path := attempt (IO.FS.createDirAll path)
  print := IO.print
  complain := IO.eprint

end RpcSharp.Command

def main (arguments : List String) : IO UInt32 := do
  let code : Nat ← RpcSharp.Command.run arguments
  if code = 2 then IO.eprint RpcSharp.Command.helpText
  return UInt32.ofNat code

import Conform.Command.Run

namespace Conform
open Files

def succeeds (action : IO α) : IO Bool := do
  match ← action.toBaseIO with
  | .ok _ => return true
  | .error _ => return false

def result? (action : IO α) : IO (Option α) := do
  match ← action.toBaseIO with
  | .ok value => return some value
  | .error _ => return none

def folderOf? (path : String) : Option String :=
  match splitLast? path with
  | some (before, _) => if before.isEmpty then none else some (ofParts before)
  | none => none

instance : Host IO where
  contains path := succeeds (IO.FS.realPath path)
  isFile path := succeeds do
    let file ← IO.FS.Handle.mk path .read
    file.read 1
  read? path := result? (IO.FS.readFile path)
  write path text := succeeds do
    if let some folder := folderOf? path then
      if folder != "" then IO.FS.createDirAll folder
    IO.FS.writeFile path text
  input? := result? do
    let input ← IO.getStdin
    let rec readAll (text : ByteArray) : Nat → IO ByteArray
      | 0 => return text
      | fuel + 1 => do
          let more ← input.read 65536
          if more.isEmpty then return text else readAll (text ++ more) fuel
    match String.fromUTF8? (← readAll .empty 4294967296) with
    | some text => return text
    | none => throw (IO.userError "the text is not valid")
  print text := succeeds do
    let output ← IO.getStdout
    output.putStr text
    output.flush
  warn text := do (← IO.getStderr).putStr text

end Conform

open Conform in
def main (arguments : List String) : IO UInt32 := do
  let environment : Command.Environment := {
    config := ← IO.getEnv "DATAVAL_CONFIG"
    logFormat := ← IO.getEnv "DATAVAL_LOG_FORMAT"
    home := ← IO.getEnv "HOME"
    configHome := ← IO.getEnv "XDG_CONFIG_HOME"
    terminal := ← (← IO.getStdout).isTty }
  let code : Nat ← Command.invoke Registry.builtin environment (Arguments.read environment.config arguments)
  return code.toUInt32

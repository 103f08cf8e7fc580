import ChainTrust.CommandLine
import Std.Time.DateTime.Timestamp

open ChainTrust

def faultOf : IO.Error → FileFault
  | .noFileOrDirectory .. => .notFound
  | .permissionDenied .. => .permissionDenied
  | .inappropriateType .. => .isADirectory
  | _ => .other

def readFile (name : String) : IO (Except FileFault Bytes) := do
  match ← (IO.FS.readBinFile name).toBaseIO with
  | .ok content => return .ok content.toList
  | .error e => return .error (faultOf e)

def clock : IO UInt64 := do
  return UInt64.ofNat (← Std.Time.Timestamp.now).toSecondsSinceUnixEpoch.val.toNat

def main (args : List String) : IO UInt32 := do
  let outcome ← CommandLine.run ⟨readFile, clock⟩ args
  IO.print outcome.output
  return outcome.exitCode.toUInt32

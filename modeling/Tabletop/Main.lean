import Tabletop.CommandLine

/-!
# The program

Reads the environment, runs the command line, and prints its result.
-/

namespace Tabletop

/-- The values of the environment variables that hold settings. -/
def readEnvironment : IO Environment := do
  let keys := [Setting.successThreshold, .botchFace, .criticalThreshold, .seed, .historyLimit].map
    Setting.key
  let values ← keys.mapM fun key => return (key, ← IO.getEnv key)
  return fun key => (values.lookup key).join

/-- Eight random bytes as a number. -/
def readEntropy : IO UInt64 := do
  let bytes ← IO.getRandomBytes 8
  return bytes.toList.foldl (fun sofar b => sofar <<< 8 ||| b.toUInt64) 0

end Tabletop

def main (args : List String) : IO UInt32 := do
  let result := Tabletop.CommandLine.run args (← Tabletop.readEnvironment) (← Tabletop.readEntropy)
  IO.print result.stdout
  IO.eprint result.stderr
  return UInt32.ofNat result.code

import OutboxProvisioning.Log.Printer
import OutboxProvisioning.Service

/-!
# The command line

Reads the variables that the program was started with and a file of more, and runs the program.
There is no network here: every connection fails, so a run ends where it would connect.
-/

namespace OutboxProvisioning

/-- A database that there is no way to. -/
def unreachableHost : Service.Host Unit where
  server := ⟨fun _ _ => (.refused ⟨"08006", "no connection", none⟩, ()),
    fun _ => (.error (.unreachable "network is not available"), ())⟩
  initial := ()
  sent _ := []

/-- The octets up to the next zero, and what follows it. -/
def splitAtZero : Bytes → List Bytes
  | [] => [[]]
  | b :: r =>
    match splitAtZero r with
    | [] => [[b]]
    | part :: rest => if b = 0 then [] :: part :: rest else (b :: part) :: rest

/-- The name and the text that `name=text` stands for. -/
def pair? (b : Bytes) : Option (String × String) :=
  match Utf8.decode b with
  | .error _ => none
  | .ok s =>
    (Text.splitFirst ['='] s.toList).map fun (name, text) =>
      (String.ofList name, String.ofList text)

/-- The octets of a file, if it can be read. -/
def readFile? (path : String) : IO (Option Bytes) := do
  try
    let content ← IO.FS.readBinFile path
    return some content.toList
  catch _ => return none

/-- Runs the program and tells how it ended. -/
def runProgram : IO UInt32 := do
  let given := (splitAtZero ((← readFile? "/proc/self/environ").getD [])).filterMap pair?
  match Service.run unreachableHost given (← readFile? ".env") fun _ => default with
  | none => return 101
  | some run =>
    for e in run.log do
      IO.println (if run.json then String.ofList e.write else e.line)
    IO.eprint run.errorText
    return UInt32.ofNat run.exitCode

end OutboxProvisioning

def main : IO UInt32 := OutboxProvisioning.runProgram

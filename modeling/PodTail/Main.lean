import PodTail.Cluster.Memory
import PodTail.Service.Handler
import PodTail.Service.Launch

/-!
# The command line

`main` reads the options and then answers every line of standard input, which holds a request
target. `reply` runs `Handler.handle` on a memory cluster without pods, so that a set of options can
be tried without a network. Each request is a `GET` that cannot be upgraded to a WebSocket.
-/

set_option autoImplicit false

namespace PodTail

namespace Main

/-- What is told about options that were not taken. -/
def complaint : Options.Complaint → String
  | .badValue => "an option has a value that it cannot have"
  | .valueMissing => "an option has no value"
  | .unknown => "there is no such option"
  | .repeated => "an option is given twice"
  | .valueNotTaken => "an option takes no value"
  | .helpWanted => Options.help

/-- What is answered to a request target by a cluster without pods. -/
def reply (settings : Settings) (target : String) : String :=
  match Request.make "GET" target [] false with
  | .error fault => "400 " ++ fault.message
  | .ok request =>
    match Handler.handle settings ⟨0, false⟩ Memory.cluster ⟨[], [], .close, 0, 0, []⟩
        request with
    | (.answer r, _, _) | (.accept r _, _, _) => toString r.status ++ " " ++ r.body
    | (.breakOff, _, _) => "there is no answer"

/-- Answers every line of the input. -/
partial def answerLines (settings : Settings) (input output : IO.FS.Stream) : IO Unit := do
  let line ← input.getLine
  if line.isEmpty then return
  output.putStrLn (reply settings line.trimAscii.toString)
  output.flush
  answerLines settings input output

end Main

end PodTail

open PodTail in
/-- Starts with the arguments of the command line. -/
def main (args : List String) : IO UInt32 := do
  match Options.ofArguments args with
  | .ok options =>
    Main.answerLines options.settings (← IO.getStdin) (← IO.getStdout)
    return 0
  | .error .helpWanted =>
    IO.print Options.help
    return 0
  | .error c =>
    IO.eprintln ("error: " ++ Main.complaint c)
    return 2

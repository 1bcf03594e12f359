import ExactCalc.Service
import ExactCalc.Window.Drawing

/-!
# The command line

The arguments choose what is done: one evaluation, one request body, the help text, or the window
when there are none. What is printed and the exit code are computed here; opening the window is left
to the caller.
-/

namespace ExactCalc.CommandLine

inductive Command
  | openWindow
  | evaluate (expression : String)
  | respond (body : String)
  | help
  | unexpected (argument : String)
  deriving DecidableEq

/-- Arguments beyond those a command needs are ignored; a command without its own is not one. -/
def Command.ofArguments : List String → Command
  | [] => openWindow
  | "-e" :: expression :: _ => evaluate expression
  | "--eval" :: expression :: _ => evaluate expression
  | "-j" :: body :: _ => respond body
  | "--json" :: body :: _ => respond body
  | "-h" :: _ => help
  | "--help" :: _ => help
  | argument :: _ => unexpected argument

/-- What a run of the program leaves behind. -/
structure Outcome where
  code : Nat
  output : String
  errors : String
  deriving DecidableEq

def helpText : String :=
  title ++ "\n\n" ++
  "Usage:\n" ++
  "  calculatrice_rpn                 interface graphique\n" ++
  "  calculatrice_rpn -e <expression> évalue et imprime la réponse JSON\n" ++
  "  calculatrice_rpn -j <json>       traite un corps \x7b\"expression\": ...\x7d\n\n" ++
  "Variables: RUST_LOG, CALC_LONGUEUR_MAX, CALC_DIGITS (natif seulement)\n"

/-- The message of a window that cannot be opened. -/
def windowFailure : String := "interface graphique interrompue"

namespace Outcome

def ofResponse (response : Response) : Outcome :=
  ⟨if response.status = Response.okStatus then 0 else 1, response.body ++ "\n", ""⟩

def noWindow : Outcome := ⟨1, "", windowFailure⟩

end Outcome

def run (settings : Settings) (explain : String → String) : Command → Outcome
  | .openWindow => .noWindow
  | .evaluate expression => .ofResponse (Service.respond settings (.ofText expression)).value
  | .respond body => .ofResponse (Service.respondToBody settings explain body).value
  | .help => ⟨0, helpText, ""⟩
  | .unexpected argument => ⟨2, helpText, "argument inattendu: " ++ argument ++ "\n"⟩

/-- A run with the arguments in an environment of named texts. -/
def runWith (environment : String → Option String) (explain : String → String)
    (arguments : List String) : Outcome :=
  run (Settings.ofSource environment).value explain (Command.ofArguments arguments)

end ExactCalc.CommandLine

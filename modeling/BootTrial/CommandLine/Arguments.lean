/-!
# Arguments

The command line names one of three commands and may choose a template for it, as `--template name`
or `--template=name`. In front of the command only the question for the version is understood.
-/

namespace BootTrial

/-- What the program is told to do. -/
inductive Verb where
  /-- Enroll a batch. -/
  | enroll
  /-- Run one cycle. -/
  | run
  /-- Print the report. -/
  | report
  deriving DecidableEq, Repr

/-- What a command line asks for. -/
inductive Invocation where
  /-- The version of the program. -/
  | version
  /-- A command, with the template chosen for it. -/
  | command (verb : Verb) (template : Option String)
  deriving DecidableEq, Repr

/-- The verb of a word. -/
def verb? : String → Option Verb
  | "enroll" => some .enroll
  | "run" => some .run
  | "report" => some .report
  | _ => none

/-- Whether an argument looks like an option, and so cannot be the value of one. -/
def isOption (argument : String) : Bool :=
  match argument.toList with
  | '-' :: _ :: _ => true
  | _ => false

/-- The option that chooses a template. -/
def templateOption : String := "--template"

/-- The rest of a text behind another one. -/
def behindText? (front s : String) : Option String :=
  if front.toList.isPrefixOf s.toList then
    some (String.ofList (s.toList.drop front.length))
  else none

/-- The template that the arguments behind a command choose, unless they cannot be understood.
`chosen` is what has been chosen already. -/
def templateFrom? (chosen : Option String) : List String → Option (Option String)
  | [] => some chosen
  | argument :: rest =>
    if argument = "--" then if rest.isEmpty then some chosen else none
    else if chosen.isSome then none
    else if argument = templateOption then
      match rest with
      | [] => none
      | value :: rest => if isOption value then none else templateFrom? (some value) rest
    else
      match behindText? (templateOption ++ "=") argument with
      | some value => templateFrom? (some value) rest
      | none => none

/-- What some arguments ask for, unless they cannot be understood. -/
def Invocation.ofArguments? : List String → Option Invocation
  | [] => none
  | first :: rest =>
    if first = "--version" || (behindText? "-V" first).isSome then some .version
    else
      match verb? first with
      | none => none
      | some verb => (templateFrom? none rest).map (.command verb)

end BootTrial

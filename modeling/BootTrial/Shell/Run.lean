import BootTrial.Shell.Simple

/-!
# Carrying out commands

The meaning of each kind of command. What a command is made of is carried out by a function that is
given as an argument; `evaluate` closes the circle with a limit on how deep commands may lie within
commands and on how often a loop goes round.
-/

namespace BootTrial.Shell

/-- How a round of a loop has ended. -/
inductive Round where
  /-- At its end. -/
  | complete
  /-- Short of its end, and the loop goes on. -/
  | skipped
  /-- Short of its end, and with it the loop. -/
  | broken
  deriving DecidableEq, Repr

namespace Act

/-- Does the work of a round of a loop. -/
def round (act : Act Unit) : Act Round := do
  match ← act.outcome with
  | .ok () => return .complete
  | .error (.leave n) => if n ≤ 1 then return .broken else throw (.leave (n - 1))
  | .error (.again n) => if n ≤ 1 then return .skipped else throw (.again (n - 1))
  | .error stop => throw stop

/-- Does work within a loop. -/
def inLoop {α : Type} (act : Act α) : Act α := do
  updateShell fun shell => { shell with loops := shell.loops + 1 }
  act.followedBy (updateShell fun shell => { shell with loops := shell.loops - 1 })

/-- Ends the script on failure, if it is to. -/
def checkFailure (tested : Bool) : Act Unit := do
  let shell ← shell
  if !tested && shell.status ≠ 0 && shell.options.contains 'e' then throw .exit

end Act

namespace Hands

open Act

/-- Repeats a command as long as another succeeds, or fails; gives the status of the last round. -/
def repeatWhile (hands : Hands) (tested onFailure : Bool) (condition body : Command) :
    Nat → (status : Nat) → Act Nat
  | 0, _ => throw .exhausted
  | n + 1, status => do
    match ← round (hands.evaluate true condition) with
    | .broken => return status
    | .skipped => repeatWhile hands tested onFailure condition body n status
    | .complete =>
      if ((← shell).status = 0) = onFailure then return status
      match ← round (hands.evaluate tested body) with
      | .broken => return (← shell).status
      | _ => repeatWhile hands tested onFailure condition body n (← shell).status

/-- Carries out a command for each of some words; gives the status of the last round. -/
def forEach (hands : Hands) (tested : Bool) (name : String) (body : Command) :
    (status : Nat) → List String → Act Nat
  | status, [] => return status
  | _, word :: rest => do
    setVariable name word
    match ← round (hands.evaluate tested body) with
    | .broken => return (← shell).status
    | _ => forEach hands tested name body (← shell).status rest

/-- Whether one of some patterns matches a text. -/
def matchesOne (hands : Hands) (subject : String) : List Word → Act Bool
  | [] => return false
  | word :: rest => do
    if patternMatches (← patternOf hands.capture hands.depth word) subject.toList then return true
    else matchesOne hands subject rest

/-- Carries out the first command whose patterns match a text. -/
def selectArm (hands : Hands) (tested : Bool) (subject : String) :
    List (List Word × Command) → Act Unit
  | [] => setStatus 0
  | (patterns, body) :: rest => do
    if ← matchesOne hands subject patterns then
      match body with
      | .nothing => setStatus 0
      | body => hands.evaluate tested body
    else selectArm hands tested subject rest

/-- Carries out commands each of which reads what the one before it has written; gives the status
of the last. -/
def pipe (hands : Hands) (input : Option Nat) : List Command → Act Nat
  | [] => return 0
  | command :: rest => do
    let output ← if rest.isEmpty then pure none else some <$> addChannel (.pipe [])
    let status ← subshell hands.evaluate do
      input.forM (connect 0)
      output.forM (connect 1)
      hands.evaluate false command
    if rest.isEmpty then return status else pipe hands output rest

/-- Carries out a command with redirections, or sets the status of a fault. -/
def withRedirects (hands : Hands) (redirects : List Redirect) (act : Act Unit) : Act Unit := do
  let ready ← redirects.mapM (ready hands)
  let before := (← shell).descriptors
  let work : Act Unit := do
    if ← redirectAll ready then act
  work.followedBy (updateShell fun shell => { shell with descriptors := before })

/-- Takes note of the line of a command. -/
def atLine (line : Nat) : Act Unit :=
  updateShell fun shell => { shell with line }

/-- Carries out a command, up to what has to be done behind it. -/
def command (hands : Hands) (tested : Bool) : Command → Act Unit
  | .nothing => return
  | .simple line settings words redirects => do
    simple hands tested line settings words redirects
    runTraps hands.evaluate
    checkFailure tested
  | .negated command => do
    hands.evaluate true command
    setStatus (if (← shell).status = 0 then 1 else 0)
  | .pipeline commands => do
    setStatus (← pipe hands none commands)
    checkFailure tested
  | .andThen first second => do
    hands.evaluate true first
    if (← shell).status = 0 then hands.evaluate tested second
  | .orElse first second => do
    hands.evaluate true first
    if (← shell).status ≠ 0 then hands.evaluate tested second
  | .sequence first second => do
    hands.evaluate tested first
    hands.evaluate tested second
  | .background command => do
    let process ← newProcess
    let shell ← shell
    modify fun context => { context with jobs := context.jobs ++ [⟨process, shell, command⟩] }
    updateShell fun shell => { shell with lastJob := some process }
    setStatus 0
  | .subshell line command redirects => do
    atLine line
    let ready ← redirects.mapM (ready hands)
    let status ← subshell hands.evaluate do
      if ← redirectAll ready then hands.evaluate false command
    setStatus status
    checkFailure tested
  | .redirected line command redirects => do
    atLine line
    withRedirects hands redirects (hands.evaluate tested command)
  | .choice condition success failure => do
    hands.evaluate true condition
    if (← shell).status = 0 then hands.evaluate tested success
    else
      setStatus 0
      hands.evaluate tested failure
  | .loop onFailure condition body => do
    setStatus (← inLoop (repeatWhile hands tested onFailure condition body hands.depth 0))
  | .each line name words body => do
    atLine line
    let words ← fieldsFrom hands [] words
    setStatus (← inLoop (forEach hands tested name body 0 words))
  | .select line subject arms => do
    atLine line
    selectArm hands tested (← hands.text subject) arms
  | .define name body => do
    updateShell fun shell => { shell with functions := Named.set name body shell.functions }
    setStatus 0

end Hands

/-- Carries out a command. Commands may lie within each other, and loops may go round, `n` times. -/
def evaluate : Nat → Evaluate
  | 0 => fun _ _ => throw .exhausted
  | n + 1 => fun tested command => do
    if ← Act.hasOption 'n' then return
    Hands.command ⟨evaluate n, n⟩ tested command

/-- How deep commands may lie within each other, and how often a loop may go round. -/
def depthLimit : Nat := 100000

end BootTrial.Shell

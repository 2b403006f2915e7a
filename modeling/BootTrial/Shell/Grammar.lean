import BootTrial.Shell.Tokens

/-!
# Commands

How words and marks make up commands. Lists stand within commands and commands within lists, so the
reader of one level is built from the reader of the level below it; a level is used up by each mark
that opens an inner command, and there are as many of them as the script has characters.
-/

namespace BootTrial.Shell

/-- What a list of commands may be. -/
inductive ListKind where
  /-- One line of the script. -/
  | line
  /-- Commands up to what closes them, at least one. -/
  | required
  /-- Commands up to what closes them. -/
  | optional
  deriving DecidableEq, Repr

/-- The readers of inner commands. -/
structure Level where
  /-- Reads a list of commands. -/
  list : ListKind → Parse Command
  /-- Reads one command. -/
  command : Parse Command

/-- The builtin commands whose names no function can have, and whose faults end a script. -/
def specialCommands : List String :=
  [".", ":", "break", "continue", "eval", "exec", "exit", "export", "local", "readonly", "return",
    "set", "shift", "times", "trap", "unset"]

/-- The keywords and marks that close a list. -/
def closers : List String :=
  [")", ";;", "do", "done", "elif", "else", "esac", "fi", "then", "\x7d"]

/-- Whether a token closes a list. -/
def Token.closesList (token : Token) : Bool :=
  match token with
  | .mark text => closers.contains text
  | _ => (token.keyword?.map closers.contains).getD false

namespace Level

/-- Reads a token that has to be a certain mark. -/
def requireMark (lists : ListReaders) (mark : String) (seesKeywords : Bool := true) :
    Parse Unit := do
  let token ← nextToken lists
  match token with
  | .mark text => if text = mark then return
  | _ => pure ()
  failAt token seesKeywords ("\"" ++ mark ++ "\"")

/-- The readers of the lists within words. -/
def lists (level : Level) : ListReaders :=
  let idle : ListReaders := ⟨return .nothing, return .nothing⟩
  { enclosed := do
      let command ← level.list .optional
      requireMark idle ")"
      return command
    whole := do
      let command ← level.list .optional
      match ← nextToken idle with
      | .ending => return command
      | token => failAt token true }

/-- Reads a token that has to be a certain keyword. -/
def require (level : Level) (keyword : String) (passesLines : Bool := false) : Parse Unit := do
  let token ← nextTokenIn level.lists passesLines
  if token.keyword? ≠ some keyword then failAt token true ("\"" ++ keyword ++ "\"")

/-- Reads the redirections behind a command. -/
def redirects (level : Level) : Nat → Parse (List Redirect)
  | 0 => return []
  | n + 1 => do
    match ← nextToken level.lists with
    | .redirection descriptor mark =>
      let redirect ← readRedirect level.lists descriptor mark
      return redirect :: (← redirects level n)
    | token =>
      putBack token
      return []

/-- What has been read of a simple command. -/
structure Parts where
  /-- The variables it sets. -/
  settings : List (String × Word) := []
  /-- Its words. -/
  words : List Word := []
  /-- Its redirections. -/
  redirects : List Redirect := []

/-- Reads the definition of a function behind the opening parenthesis. -/
def function (level : Level) (name : Word) : Parse Command := do
  requireMark level.lists ")" false
  match name.plain? with
  | some text =>
    if isName text.toList && !specialCommands.contains text then
      putBack (← nextTokenIn level.lists true)
      return .define text (← level.command)
    else Parse.fail "Bad function name"
  | none => Parse.fail "Bad function name"

/-- Reads a simple command, or the definition of a function. -/
def simple (level : Level) (line : Nat) : Nat → Parts → Parse Command
  | 0, parts => return .simple line parts.settings parts.words parts.redirects
  | n + 1, parts => do
    match ← nextToken level.lists with
    | .word word =>
      match if parts.words.isEmpty then word.setting? else none with
      | some setting => simple level line n { parts with settings := parts.settings ++ [setting] }
      | none => simple level line n { parts with words := parts.words ++ [word] }
    | .redirection descriptor mark =>
      let redirect ← readRedirect level.lists descriptor mark
      simple level line n { parts with redirects := parts.redirects ++ [redirect] }
    | token =>
      match token, parts with
      | .mark "(", ⟨[], [name], []⟩ => function level name
      | _, _ =>
        putBack token
        return .simple line parts.settings parts.words parts.redirects

/-- Reads the rest of a choice behind its keyword. -/
def choice (level : Level) : Nat → Parse Command
  | 0 => return .nothing
  | n + 1 => do
    let condition ← level.list .required
    require level "then"
    let success ← level.list .required
    let token ← nextToken level.lists
    match token.keyword? with
    | some "elif" => return .choice condition success (← choice level n)
    | some "else" =>
      let failure ← level.list .required
      require level "fi"
      return .choice condition success failure
    | some "fi" => return .choice condition success .nothing
    | _ => failAt token true "\"fi\""

/-- Reads the rest of a loop behind its keyword. -/
def loop (level : Level) (onFailure : Bool) : Parse Command := do
  let condition ← level.list .required
  require level "do"
  let body ← level.list .required
  require level "done"
  return .loop onFailure condition body

/-- Reads words up to the end of a line or a semicolon. -/
def wordsOfLoop (level : Level) : Nat → Parse (List Word)
  | 0 => return []
  | n + 1 => do
    match ← nextToken level.lists with
    | .word word => return word :: (← wordsOfLoop level n)
    | .newline | .mark ";" => return []
    | token => failAt token false

/-- Reads the rest of a loop over words behind its keyword. -/
def each (level : Level) (line : Nat) : Parse Command := do
  let token ← nextToken level.lists
  let name? : Option String := match token with
    | .word pieces => pieces.plain?.filter fun name => isName name.toList
    | _ => none
  match name? with
  | none => Parse.fail "Bad for loop variable"
  | some name =>
    let token ← nextTokenIn level.lists true
    let words ← do
      if token.keyword? = some "in" then wordsOfLoop level (← Parse.bound)
      else
        match token with
        | .mark ";" => pure ()
        | _ => putBack token
        pure [[.parameter "@" .value true]]
    require level "do" true
    let body ← level.list .required
    require level "done"
    return .each line name words body

/-- Reads the patterns of an arm, of which the first token has been read. -/
def patterns (level : Level) : Nat → Token → Parse (List Word)
  | 0, _ => return []
  | n + 1, token => do
    match token with
    | .word word =>
      match ← nextToken level.lists with
      | .mark "|" => return word :: (← patterns level n (← nextToken level.lists))
      | .mark ")" => return [word]
      | token => failAt token true "\")\""
    | _ => failAt (← nextToken level.lists) true "\")\""

/-- Reads the arms of a choice by patterns. -/
def arms (level : Level) : Nat → Parse (List (List Word × Command))
  | 0 => return []
  | n + 1 => do
    let token ← nextTokenIn level.lists true
    if token.keyword? = some "esac" then return []
    let first ← match token with
      | .mark "(" => nextToken level.lists
      | _ => pure token
    let choices ← patterns level (← Parse.bound) first
    let arm := (choices, ← level.list .optional)
    let token ← nextTokenIn level.lists true
    if token.keyword? = some "esac" then return [arm]
    match token with
    | .mark ";;" => return arm :: (← arms level n)
    | _ => failAt token true "\";;\""

/-- Reads the rest of a choice by patterns behind its keyword. -/
def select (level : Level) (line : Nat) : Parse Command := do
  match ← nextToken level.lists with
  | .word subject =>
    require level "in" true
    return .select line subject (← arms level (← Parse.bound))
  | token => failAt token false "word"

/-- Reads the redirections behind a command that is put together from others. -/
def redirected (level : Level) (line : Nat) (command : Command) : Parse Command := do
  let redirects ← redirects level (← Parse.bound)
  match command with
  | .subshell line inner _ => return .subshell line inner redirects
  | _ => return if redirects.isEmpty then command else .redirected line command redirects

/-- Replaces a token where a command begins by the text that it stands for, if it is an alias, and
the first token of this text again, but no alias twice. -/
def resolveAlias (level : Level) : Nat → (used : List String) → Token → Parse Token
  | 0, _, token => return token
  | n + 1, used, token => do
    let name? : Option String := match token with
      | .word pieces => pieces.plain?.filter fun name => !used.contains name
      | _ => none
    let aliases := (← get).aliases
    match name?, name?.bind fun name => aliases.lookup name with
    | some name, some text =>
      modify fun source => { source with rest := text.toList ++ source.rest }
      resolveAlias level n (name :: used) (← nextToken level.lists)
    | _, _ => return token

/-- Reads one command. -/
def readCommand (level : Level) : Parse Command := do
  let known := (← get).aliases.length
  let token ← resolveAlias level known [] (← nextToken level.lists)
  let line := (← get).line
  let n ← Parse.bound
  match token.keyword?, token with
  | some "if", _ => redirected level line (← choice level n)
  | some "while", _ => redirected level line (← loop level false)
  | some "until", _ => redirected level line (← loop level true)
  | some "for", _ => redirected level line (← each level line)
  | some "case", _ => redirected level line (← select level line)
  | some "\x7b", _ =>
    let command ← level.list .required
    require level "\x7d"
    redirected level line command
  | some _, token => failAt token true
  | none, .mark "(" =>
    let command ← level.list .required
    requireMark level.lists ")"
    redirected level line (.subshell line command [])
  | none, .mark text => failAt (.mark text) true
  | none, .word word =>
    putBack (.word word)
    simple level line (n + 1) {}
  | none, .redirection descriptor mark =>
    putBack (.redirection descriptor mark)
    simple level line (n + 1) {}
  | none, token => failAt token true

/-- Reads the commands of a pipeline behind its first one. -/
def pipelineRest (level : Level) : Nat → Parse (List Command)
  | 0 => return []
  | n + 1 => do
    match ← nextToken level.lists with
    | .mark "|" =>
      putBack (← nextTokenIn level.lists true)
      let command ← readCommand level
      return command :: (← pipelineRest level n)
    | token =>
      putBack token
      return []

/-- Reads a pipeline. -/
def pipeline (level : Level) (passesLines : Bool) : Parse Command := do
  let token ← nextTokenIn level.lists passesLines
  let isNegated := token.keyword? = some "!"
  if !isNegated then putBack token
  let first ← readCommand level
  let rest ← pipelineRest level (← Parse.bound)
  let command := if rest.isEmpty then first else .pipeline (first :: rest)
  return if isNegated then .negated command else command

/-- Reads the pipelines behind a first one that are carried out after success or failure. -/
def andOrRest (level : Level) : Nat → Command → Parse Command
  | 0, command => return command
  | n + 1, command => do
    match ← nextToken level.lists with
    | .mark "&&" => andOrRest level n (.andThen command (← pipeline level true))
    | .mark "||" => andOrRest level n (.orElse command (← pipeline level true))
    | token =>
      putBack token
      return command

/-- A command behind those in front of it. -/
def follow (before : Option Command) (command : Command) : Command :=
  match before with
  | none => command
  | some before => .sequence before command

/-- Reads a list of commands behind those in front of it. -/
def readList (level : Level) (isLine : Bool) :
    Nat → (mayClose : Bool) → Option Command → Parse Command
  | 0, _, before => return before.getD .nothing
  | n + 1, mayClose, before => do
    let token ← nextTokenIn level.lists (!isLine)
    match token with
    | .newline => return before.getD .nothing
    | .ending =>
      putBack token
      return before.getD .nothing
    | _ =>
      putBack token
      if mayClose && !isLine && token.closesList then return before.getD .nothing
      let command ← andOrRest level (← Parse.bound) (← pipeline level false)
      match ← nextToken level.lists with
      | .mark "&" => readList level isLine n true (some (follow before (.background command)))
      | .mark ";" => readList level isLine n true (some (follow before command))
      | .newline =>
        putBack .newline
        readList level isLine n true (some (follow before command))
      | .ending =>
        putBack .ending
        return follow before command
      | token =>
        if isLine then failAt token true
        putBack token
        return follow before command

/-- The readers that are built from those of the level below. -/
def above (level : Level) : Level where
  list kind := do
    readList level (kind = .line) ((← Parse.bound) + 1) (kind = .optional) none
  command := readCommand level

/-- The readers of the lowest level, which no script reaches. -/
def lowest : Level where
  list _ := return .nothing
  command := return .nothing

/-- The readers of a level. -/
def ofHeight : Nat → Level
  | 0 => lowest
  | n + 1 => (ofHeight n).above

end Level

/-- Reads one line of a script, with as many further ones as its commands go over. -/
def readLine : Parse Command := do
  (Level.ofHeight ((← get).rest.length + 1)).list .line

end BootTrial.Shell

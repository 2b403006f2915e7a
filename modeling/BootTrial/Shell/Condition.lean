import BootTrial.Shell.Arithmetic

/-!
# Conditions

The expressions of the builtin command `test`. What is asked about a file is answered by a function
that is given as an argument.
-/

namespace BootTrial.Shell

/-- The operators in front of one operand. -/
def unaryTests : List String :=
  ["-r", "-w", "-x", "-e", "-f", "-d", "-c", "-b", "-p", "-u", "-g", "-k", "-s", "-t", "-z", "-n",
    "-h", "-L", "-O", "-G", "-S"]

/-- The operators between two operands. -/
def binaryTests : List String :=
  ["=", "!=", "<", ">", "-eq", "-ne", "-gt", "-ge", "-lt", "-le", "-nt", "-ot", "-ef"]

/-- The operators that join or group expressions. -/
def joiningTests : List String :=
  ["!", "-a", "-o", "(", ")"]

/-- The value of a condition and the number of arguments up to its end, or what is wrong. -/
abbrev TestResult := Except String (Bool × Nat)

/-- What answers questions about files: with one operand, and with two. -/
structure FileTests where
  /-- Answers about one file. -/
  about : (operator file : String) → Bool
  /-- Answers about two files. -/
  between : (operator first second : String) → Bool

/-- The number that an operand spells. -/
def operandNumber (operand : String) : Except String Int :=
  let text := operand.toList.dropWhile isNumberSpace
  let (isNegative, digits) :=
    match text with
    | '-' :: rest => (true, rest)
    | '+' :: rest => (false, rest)
    | _ => (false, text)
  let (n, count, rest) := digitsFrom 10 0 0 digits
  if count = 0 || !rest.all isNumberSpace then .error ("Illegal number: " ++ operand)
  else if largest < n then .error ("Illegal number: " ++ operand)
  else .ok (if isNegative then -(n : Int) else n)

/-- The arguments of a test. -/
structure Test where
  /-- The arguments. -/
  args : List String
  /-- What answers questions about files. -/
  files : FileTests

namespace Test

/-- Whether an argument stands as an operand where an operator with one operand might stand. -/
def isOperand (test : Test) (i : Nat) : Bool :=
  match test.args[i + 1]? with
  | none => true
  | some next =>
    match test.args[i + 2]? with
    | none => false
    | some _ => binaryTests.contains next

/-- The operator that an argument is. -/
def operator? (test : Test) (i : Nat) : Option String :=
  (test.args[i]?).filter fun arg =>
    (unaryTests.contains arg && !test.isOperand i) || binaryTests.contains arg
      || (joiningTests.contains arg && !(arg = "(" && test.args[i + 1]?.isNone))

/-- The value of an operator between two operands. -/
def compare (test : Test) (operator first second : String) : Except String Bool :=
  let numbers (holds : Int → Int → Bool) : Except String Bool := do
    return holds (← operandNumber first) (← operandNumber second)
  match operator with
  | "=" => .ok (first = second)
  | "!=" => .ok (first ≠ second)
  | "<" => .ok (first < second)
  | ">" => .ok (second < first)
  | "-eq" => numbers fun a b => a = b
  | "-ne" => numbers fun a b => a ≠ b
  | "-gt" => numbers fun a b => b < a
  | "-ge" => numbers fun a b => b ≤ a
  | "-lt" => numbers fun a b => a < b
  | "-le" => numbers fun a b => a ≤ b
  | _ => .ok (test.files.between operator first second)

/-- The value of the simplest condition at an argument, and the number of its last argument; `inner`
gives that of what stands in parentheses. -/
def primary (test : Test) (inner : Nat → TestResult) (isOperand : Bool) (i : Nat) : TestResult :=
  match test.args[i]? with
  | none => .ok (false, i)
  | some arg =>
    let operator := if isOperand then none else test.operator? i
    if operator = some "(" then
      if test.operator? (i + 1) = some ")" then .ok (false, i + 1)
      else do
        let (value, last) ← inner (i + 1)
        if test.operator? (last + 1) = some ")" then return (value, last + 1)
        else throw "closing paren expected"
    else if (operator.map unaryTests.contains).getD false then
      match test.args[i + 1]? with
      | none => .error (arg ++ ": argument expected")
      | some operand =>
        if arg = "-z" then .ok (operand = "", i + 1)
        else if arg = "-n" then .ok (operand ≠ "", i + 1)
        else if arg = "-t" then (operandNumber operand).map fun _ => (false, i + 1)
        else .ok (test.files.about arg operand, i + 1)
    else
      match test.operator? (i + 1) with
      | none => .ok (arg ≠ "", i)
      | some operator =>
        if binaryTests.contains operator then
          match test.args[i + 2]? with
          | none => .error (operator ++ ": argument expected")
          | some second => (test.compare operator arg second).map fun value => (value, i + 2)
        else .ok (arg ≠ "", i)

/-- The value of a condition behind any number of negations. -/
def negations (test : Test) (inner : Nat → TestResult) (isOperand : Bool) :
    Nat → Nat → TestResult
  | 0, i => .ok (false, i)
  | n + 1, i =>
    if !isOperand && test.operator? i = some "!" then
      match test.args[i + 1]? with
      | none => .ok (true, i)
      | some _ => (negations test inner false n (i + 1)).map fun (value, last) => (!value, last)
    else primary test inner isOperand i

/-- The value of conditions that have to hold together, behind a first one. -/
def conjunction (test : Test) (one : Nat → TestResult) : Nat → Bool → Nat → TestResult
  | 0, value, last => .ok (value, last)
  | n + 1, value, last =>
    if test.operator? (last + 1) = some "-a" then do
      let (next, last) ← one (last + 2)
      conjunction test one n (value && next) last
    else .ok (value, last)

/-- The value of conditions one of which has to hold, behind a first one. -/
def disjunction (test : Test) (one : Nat → TestResult) : Nat → Bool → Nat → TestResult
  | 0, value, last => .ok (value, last)
  | n + 1, value, last =>
    if test.operator? (last + 1) = some "-o" then do
      let (next, last) ← one (last + 2)
      disjunction test one n (value || next) last
    else .ok (value, last)

/-- The value of the condition that begins at an argument, which may have to be taken for an
operand. -/
def whole (test : Test) : Nat → (isOperand : Bool) → Nat → TestResult
  | 0, _, i => .ok (false, i)
  | n + 1, isOperand, i => do
    let size := test.args.length + 1
    let one (isOperand : Bool) := negations test (whole test n false) isOperand size
    let all (isOperand : Bool) (i : Nat) : TestResult := do
      let (value, last) ← one isOperand i
      conjunction test (one false) size value last
    let (value, last) ← all isOperand i
    disjunction test (all false) size value last

/-- The value of a condition, or what is wrong with it. -/
def evaluate (files : FileTests) (args : List String) (isOperand : Bool) : Except String Bool := do
  let test : Test := ⟨args, files⟩
  let (value, last) ← whole test (args.length + 1) isOperand 0
  match args[last]?, args[last + 1]? with
  | some arg, some _ => throw (arg ++ ": unexpected operator")
  | _, _ => return value

/-- The value of the arguments of `test`. Up to four of them have a meaning by their number. -/
def holdsWithin (files : FileTests) : Nat → List String → Except String Bool
  | 0, _ => .ok false
  | n + 1, args =>
    match args with
    | [] => .ok false
    | first :: rest =>
      let isComparison := args.length = 3 && (rest.head?.map binaryTests.contains).getD false
      if isComparison then evaluate files args true
      else if args.length = 3 || args.length = 4 then
        if first = "(" && args.getLast? = some ")" then evaluate files rest.dropLast false
        else if first = "!" then (holdsWithin files n rest).map (!·)
        else evaluate files args false
      else evaluate files args false

/-- The value of the arguments of `test`, or what is wrong with them. -/
def holds (files : FileTests) (args : List String) : Except String Bool :=
  holdsWithin files (args.length + 1) args

end Test

end BootTrial.Shell

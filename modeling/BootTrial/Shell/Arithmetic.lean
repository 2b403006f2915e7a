import BootTrial.Shell.Syntax

/-!
# Arithmetic

The integer expressions of the shell: their form, and how they are read. Numbers have 64 bits and
wrap around.
-/

namespace BootTrial.Shell

/-- An operator between two values. -/
inductive Operator where
  | multiply | divide | remainder | add | subtract | shiftLeft | shiftRight
  | less | atMost | greater | atLeast | equal | unequal | bitAnd | bitXor | bitOr
  deriving DecidableEq, Repr

/-- An operator in front of a value. -/
inductive Sign where
  | plus | minus | complement | negation
  deriving DecidableEq, Repr

/-- An integer expression. -/
inductive Sum where
  /-- A number. -/
  | number (n : Int)
  /-- The value of a variable. -/
  | variableValue (name : String)
  /-- The value of an operator in front of an expression. -/
  | signed (sign : Sign) (operand : Sum)
  /-- The value of an operator between two expressions. -/
  | binary (operator : Operator) (first second : Sum)
  /-- Whether both expressions hold. -/
  | both (first second : Sum)
  /-- Whether one of two expressions holds. -/
  | either (first second : Sum)
  /-- A choice between two expressions. -/
  | choice (condition success failure : Sum)
  /-- A value that a variable is set to, by itself or by an operator on the old value. -/
  | assign (name : String) (operator : Option Operator) (value : Sum)
  deriving Repr

/-- A number of 64 bits, the first of which is its sign. -/
def wrapped (n : Int) : Int :=
  n.bmod (Nat.pow 2 64)

/-- A number from 0 on that has the bits of a number of 64 bits. -/
def bitsOf (n : Int) : Nat :=
  (n % (Nat.pow 2 64 : Nat)).toNat

/-- The number of a condition. -/
def truth (b : Bool) : Int :=
  if b then 1 else 0

/-- The value of an operator between two numbers; none for a division by zero. -/
def Operator.value? (operator : Operator) (a b : Int) : Option Int :=
  match operator with
  | .multiply => some (wrapped (a * b))
  | .divide => if b = 0 then none else some (wrapped (a.tdiv b))
  | .remainder => if b = 0 then none else some (wrapped (a.tmod b))
  | .add => some (wrapped (a + b))
  | .subtract => some (wrapped (a - b))
  | .shiftLeft => some (wrapped (a * Nat.pow 2 (bitsOf b % 64)))
  | .shiftRight => some (wrapped (a.fdiv (Nat.pow 2 (bitsOf b % 64))))
  | .less => some (truth (a < b))
  | .atMost => some (truth (a ≤ b))
  | .greater => some (truth (b < a))
  | .atLeast => some (truth (b ≤ a))
  | .equal => some (truth (a = b))
  | .unequal => some (truth (a ≠ b))
  | .bitAnd => some (wrapped (Nat.land (bitsOf a) (bitsOf b)))
  | .bitXor => some (wrapped (Nat.xor (bitsOf a) (bitsOf b)))
  | .bitOr => some (wrapped (Nat.lor (bitsOf a) (bitsOf b)))

/-- The value of an operator in front of a number. -/
def Sign.value (sign : Sign) (a : Int) : Int :=
  match sign with
  | .plus => a
  | .minus => wrapped (-a)
  | .complement => -a - 1
  | .negation => truth (a = 0)

/-- What an expression is made of. -/
inductive SumToken where
  /-- A number. -/
  | number (n : Int)
  /-- A name. -/
  | name (name : String)
  /-- A mark. -/
  | mark (text : String)
  deriving DecidableEq, Repr

/-- The marks in expressions, the longest first. -/
def sumMarks : List String :=
  ["<<=", ">>=", "<<", ">>", "<=", ">=", "==", "!=", "&&", "||", "+=", "-=", "*=", "/=", "%=",
    "&=", "^=", "|=", "+", "-", "*", "/", "%", "<", ">", "=", "!", "&", "^", "|", "~", "?", ":",
    "(", ")"]

/-- The value of a digit in a base of up to 16. -/
def digitOf? (base : Nat) (c : Char) : Option Nat :=
  let n :=
    if isDigit c then c.toNat - '0'.toNat
    else if 'a' ≤ c && c ≤ 'f' then c.toNat - 'a'.toNat + 10
    else if 'A' ≤ c && c ≤ 'F' then c.toNat - 'A'.toNat + 10
    else base
  if n < base then some n else none

/-- The digits of a base at the front of a text as a number that follows `n`, how many there are,
and what is left. -/
def digitsFrom (base n count : Nat) : List Char → Nat × Nat × List Char
  | [] => (n, count, [])
  | c :: rest =>
    match digitOf? base c with
    | some d => digitsFrom base (n * base + d) (count + 1) rest
    | none => (n, count, c :: rest)

/-- The number at the front of a text, in the base that its first digits name, and what is left.
None if there is no digit. -/
def unsigned? (text : List Char) : Option (Nat × List Char) :=
  let decimal : Option (Nat × List Char) :=
    match text with
    | '0' :: _ =>
      let (n, _, rest) := digitsFrom 8 0 0 text
      some (n, rest)
    | _ =>
      let (n, count, rest) := digitsFrom 10 0 0 text
      if count = 0 then none else some (n, rest)
  match text with
  | '0' :: x :: more =>
    if x = 'x' || x = 'X' then
      let (n, count, rest) := digitsFrom 16 0 0 more
      if count = 0 then some (0, x :: more) else some (n, rest)
    else decimal
  | _ => decimal

/-- The largest number. -/
def largest : Nat := Nat.pow 2 63 - 1

/-- The tokens of an expression of at most `n` characters. It ends where no token begins; then the
result says so. -/
def sumTokens : Nat → List Char → List SumToken × Bool
  | 0, text => ([], text.isEmpty)
  | n + 1, text =>
    match text with
    | [] => ([], true)
    | c :: rest =>
      let behind (token : SumToken) (rest : List Char) : List SumToken × Bool :=
        let (tokens, isComplete) := sumTokens n rest
        (token :: tokens, isComplete)
      if c = ' ' || c = '\t' || c = '\n' then sumTokens n rest
      else if startsName c then
        behind (.name (String.ofList (text.takeWhile continuesName)))
          (text.dropWhile continuesName)
      else
        match unsigned? text with
        | some (value, rest) => behind (.number (min value largest)) rest
        | none =>
          match sumMarks.find? (·.toList.isPrefixOf text) with
          | some mark => behind (.mark mark) (text.drop mark.length)
          | none => ([], false)

/-- The reading of an expression: what has been read and the tokens behind it, or what is wrong. -/
abbrev SumResult := Except String (Sum × List SumToken)

/-- The operators between values with how tightly they bind, and those that have no value of their
own. -/
def binaryMarks : List (String × Nat × Option Operator) :=
  [("*", 10, some .multiply), ("/", 10, some .divide), ("%", 10, some .remainder),
    ("+", 9, some .add), ("-", 9, some .subtract), ("<<", 8, some .shiftLeft),
    (">>", 8, some .shiftRight), ("<", 7, some .less), ("<=", 7, some .atMost),
    (">", 7, some .greater), (">=", 7, some .atLeast), ("==", 6, some .equal),
    ("!=", 6, some .unequal), ("&", 5, some .bitAnd), ("^", 4, some .bitXor),
    ("|", 3, some .bitOr), ("&&", 2, none), ("||", 1, none)]

/-- The marks that set a variable. -/
def assignMarks : List (String × Option Operator) :=
  [("=", none), ("*=", some .multiply), ("/=", some .divide), ("%=", some .remainder),
    ("+=", some .add), ("-=", some .subtract), ("<<=", some .shiftLeft),
    (">>=", some .shiftRight), ("&=", some .bitAnd), ("^=", some .bitXor), ("|=", some .bitOr)]

/-- The marks in front of a value. -/
def signMarks : List (String × Sign) :=
  [("+", .plus), ("-", .minus), ("~", .complement), ("!", .negation)]

/-- A value with a name or in parentheses, or a sign in front of one; `whole` reads what stands in
parentheses. -/
def readOperand (whole : List SumToken → SumResult) : List SumToken → SumResult
  | .number n :: rest => .ok (.number n, rest)
  | .name name :: rest => .ok (.variableValue name, rest)
  | .mark "(" :: rest => do
    match ← whole rest with
    | (sum, .mark ")" :: rest) => return (sum, rest)
    | _ => throw "expecting ')'"
  | .mark mark :: rest =>
    match signMarks.lookup mark with
    | some sign => do
      let (operand, rest) ← readOperand whole rest
      return (.signed sign operand, rest)
    | none => .error "expecting primary"
  | [] => .error "expecting primary"

/-- Two expressions with the mark between them. -/
def joined (mark : String) (operator : Option Operator) (first second : Sum) : Sum :=
  match operator with
  | some operator => .binary operator first second
  | none => if mark = "&&" then .both first second else .either first second

/-- Reads the operators behind a value that bind at least as tightly as `floor`. -/
def readBinary (operand : List SumToken → SumResult) :
    Nat → (floor : Nat) → Sum → List SumToken → SumResult
  | 0, _, first, tokens => .ok (first, tokens)
  | n + 1, floor, first, tokens =>
    match tokens with
    | .mark mark :: rest =>
      match binaryMarks.lookup mark with
      | some (strength, operator) =>
        if strength < floor then .ok (first, tokens)
        else do
          let (next, rest) ← operand rest
          let (second, rest) ← readBinary operand n (strength + 1) next rest
          readBinary operand n floor (joined mark operator first second) rest
      | none => .ok (first, tokens)
    | _ => .ok (first, tokens)

/-- Reads a whole expression. -/
def readSum : Nat → List SumToken → SumResult
  | 0, _ => .error "expecting primary"
  | n + 1, tokens => do
    let setting : Option (String × Option Operator × List SumToken) :=
      match tokens with
      | .name name :: .mark mark :: rest =>
        (assignMarks.lookup mark).map fun operator => (name, operator, rest)
      | _ => none
    match setting with
    | some (name, operator, rest) => do
      let (value, rest) ← readSum n rest
      return (.assign name operator value, rest)
    | none =>
      let operand := readOperand (readSum n)
      let (first, rest) ← operand tokens
      let (condition, rest) ← readBinary operand (tokens.length + 1) 0 first rest
      match rest with
      | .mark "?" :: rest => do
        match ← readSum n rest with
        | (success, .mark ":" :: rest) => do
          let (failure, rest) ← readSum n rest
          return (.choice condition success failure, rest)
        | _ => throw "expecting ':'"
      | _ => return (condition, rest)

/-- The expression that a text spells, or what is wrong with it. -/
def sumOf (text : String) : Except String Sum := do
  let (tokens, isComplete) := sumTokens (text.toList.length + 1) text.toList
  let (sum, rest) ← readSum (tokens.length + 1) tokens
  if rest.isEmpty && isComplete then return sum else throw "expecting EOF"

/-- The blanks in front of a number. -/
def isNumberSpace (c : Char) : Bool :=
  c = ' ' || ('\t' ≤ c && c ≤ '\r')

/-- The number at the front of a text, with a sign and with blanks in front of it, and what is left;
none if there is no digit. -/
def signedNumber? (text : List Char) : Option (Int × List Char) :=
  match text.dropWhile isNumberSpace with
  | '-' :: rest => (unsigned? rest).map fun (n, rest) => (-(n : Int), rest)
  | '+' :: rest => (unsigned? rest).map fun (n, rest) => ((n : Int), rest)
  | rest => (unsigned? rest).map fun (n, rest) => ((n : Int), rest)

/-- The number that a variable with some value stands for in an expression. Blanks may follow it. -/
def valueOf? (value : String) : Option Int :=
  if value.toList.all isNumberSpace then some 0
  else
    match signedNumber? value.toList with
    | some (n, rest) =>
      if rest.all isNumberSpace && -(largest : Int) - 1 ≤ n && n ≤ largest then some n else none
    | none => none

end BootTrial.Shell

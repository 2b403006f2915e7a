import BootTrial.Shell.Arithmetic

/-!
# Printing

What the builtin commands `echo` and `printf` print. Texts hold one character for each octet.
-/

namespace BootTrial.Shell

/-- The octal digits at the front of a text, at most `n`, as a number that follows `value`, and what
is left. -/
def octal (value : Nat) : Nat → List Char → Nat × List Char
  | 0, text => (value, text)
  | _, [] => (value, [])
  | n + 1, c :: rest =>
    match digitOf? 8 c with
    | some d => octal (value * 8 + d) n rest
    | none => (value, c :: rest)

/-- The characters that have an escape of their own. -/
def escapes : List (Char × Char) :=
  [('\\', '\\'), ('a', '\x07'), ('b', '\x08'), ('e', '\x1b'), ('f', '\x0c'), ('n', '\n'),
    ('r', '\x0d'), ('t', '\t'), ('v', '\x0b')]

/-- The character that a text behind a backslash stands for, and what is left. A text that is no
escape stands behind a backslash that stands for itself. -/
def escapeAt (text : List Char) : Char × List Char :=
  match text with
  | [] => ('\\', [])
  | c :: rest =>
    match escapes.lookup c with
    | some meant => (meant, rest)
    | none =>
      if (digitOf? 8 c).isSome then
        let (value, rest) := octal 0 3 text
        (Char.ofNat (value % 256), rest)
      else ('\\', text)

/-- A text of at most `n` characters with its escapes resolved, and whether one of them has cut it
short. -/
def resolved : Nat → List Char → List Char × Bool
  | 0, _ => ([], false)
  | _, [] => ([], false)
  | _ + 1, '\\' :: 'c' :: _ => ([], true)
  | n + 1, '\\' :: rest =>
    let inner :=
      match rest with
      | '0' :: d :: _ => if (digitOf? 8 d).isSome then rest.drop 1 else rest
      | _ => rest
    let (c, rest) := escapeAt inner
    let (more, isCut) := resolved n rest
    (c :: more, isCut)
  | n + 1, c :: rest =>
    let (more, isCut) := resolved n rest
    (c :: more, isCut)

/-- A text with its escapes resolved, and whether one of them has cut it short. -/
def resolveEscapes (text : List Char) : List Char × Bool :=
  resolved text.length text

/-- What `echo` prints. -/
def echoed (words : List String) : String :=
  let (endsOpen, words) :=
    match words with
    | "-n" :: rest => (true, rest)
    | words => (false, words)
  let (cs, isCut) := resolveEscapes (" ".intercalate words).toList
  String.ofList cs ++ if endsOpen || isCut then "" else "\n"

/-- The layout of a value. -/
structure Layout where
  /-- The flags. -/
  flags : List Char := []
  /-- The least number of characters. -/
  width : Nat := 0
  /-- The number of digits, or the most characters. -/
  precision : Option Nat := none

/-- A text with blanks, or zeros behind its sign, up to its least number of characters. -/
def Layout.fill (layout : Layout) (front text : List Char) (zeros : Bool) : List Char :=
  let missing := layout.width - front.length - text.length
  if layout.flags.contains '-' then front ++ text ++ List.replicate missing ' '
  else if zeros && layout.flags.contains '0' then front ++ List.replicate missing '0' ++ text
  else List.replicate missing ' ' ++ front ++ text

/-- A text as it is laid out. -/
def Layout.text (layout : Layout) (text : List Char) : List Char :=
  layout.fill [] (match layout.precision with | some n => text.take n | none => text) false

/-- Digits as they are laid out behind a sign. -/
def Layout.number (layout : Layout) (front digits : List Char) : List Char :=
  match layout.precision with
  | none => layout.fill front digits true
  | some n =>
    let digits := if n = 0 && digits = ['0'] then [] else digits
    layout.fill front (List.replicate (n - digits.length) '0' ++ digits) false

/-- A number with a sign as it is laid out. -/
def Layout.decimal (layout : Layout) (n : Int) : List Char :=
  let front :=
    if n < 0 then ['-']
    else if layout.flags.contains '+' then ['+']
    else if layout.flags.contains ' ' then [' ']
    else []
  layout.number front (Nat.toDigits 10 n.natAbs)

/-- A number without a sign as it is laid out by its conversion. -/
def Layout.unsigned (layout : Layout) (conversion : Char) (n : Nat) : List Char :=
  let marked := layout.flags.contains '#'
  match conversion with
  | 'o' =>
    let digits := Nat.toDigits 8 n
    layout.number [] (if marked && digits.head? ≠ some '0' then '0' :: digits else digits)
  | 'x' => layout.number (if marked && n ≠ 0 then ['0', 'x'] else []) (Nat.toDigits 16 n)
  | 'X' =>
    layout.number (if marked && n ≠ 0 then ['0', 'X'] else [])
      ((Nat.toDigits 16 n).map Char.toUpper)
  | _ => layout.number [] (Nat.toDigits 10 n)

/-- What printing has come to. -/
structure Printed where
  /-- The arguments that have not been used. -/
  args : List String
  /-- What is printed. -/
  output : List Char := []
  /-- What is said about the arguments, the latest first. -/
  complaints : List String := []
  /-- Whether nothing more is to be printed. -/
  isCut : Bool := false
  /-- The fault that has ended the printing. -/
  fault : Option String := none

/-- Adds to what is printed. -/
def Printed.add (printed : Printed) (cs : List Char) : Printed :=
  { printed with output := printed.output ++ cs }

/-- Takes the next argument. -/
def Printed.take (printed : Printed) : Option String × Printed :=
  match printed.args with
  | [] => (none, printed)
  | arg :: rest => (some arg, { printed with args := rest })

/-- Adds a complaint. -/
def Printed.complain (printed : Printed) (message : String) : Printed :=
  { printed with complaints := message :: printed.complaints }

/-- The number that an argument stands for, with the complaints about it. Numbers beyond what 64
bits hold are cut off. -/
def numberOf (isSigned : Bool) (arg : String) : Int × List String :=
  match arg.toList with
  | '"' :: rest | '\'' :: rest => (((rest.head?.map (·.toNat)).getD 0 : Nat), [])
  | cs =>
    match signedNumber? cs with
    | none => (0, if cs.isEmpty then [] else [arg ++ ": expected numeric value"])
    | some (n, rest) =>
      let top : Int := if isSigned then largest else 2 * largest + 1
      let bottom : Int := if isSigned then -(largest : Int) - 1 else -(2 * largest + 1)
      let cut := if top < n then top else if n < bottom then (if isSigned then bottom else top)
        else n
      (cut,
        if !rest.isEmpty then [arg ++ ": not completely converted"]
        else if cut ≠ n then [arg ++ ": Numerical result out of range"]
        else [])

/-- Takes the next argument as a number. -/
def Printed.takeNumber (printed : Printed) (isSigned : Bool) : Int × Printed :=
  match printed.take with
  | (none, printed) => (0, printed)
  | (some arg, printed) =>
    let (n, complaints) := numberOf isSigned arg
    (n, complaints.foldl Printed.complain printed)

/-- A count in a layout, which an asterisk takes from the arguments, and what is left of the
format. -/
def Printed.takeCount (printed : Printed) (format : List Char) : Int × Printed × List Char :=
  match format with
  | '*' :: rest =>
    let (n, printed) := printed.takeNumber true
    (n, printed, rest)
  | _ =>
    let (n, _, rest) := digitsFrom 10 0 0 format
    (n, printed, rest)

/-- Prints what a conversion makes of the next argument. `text` is the conversion as it is
written. -/
def Printed.convert (printed : Printed) (layout : Layout) (conversion : Char) (text : List Char) :
    Printed :=
  if conversion = 's' then
    let (arg, printed) := printed.take
    printed.add (layout.text (arg.getD "").toList)
  else if conversion = 'b' then
    let (arg, printed) := printed.take
    let (cs, isCut) := resolveEscapes (arg.getD "").toList
    { printed.add (layout.text cs) with isCut }
  else if conversion = 'c' then
    let (arg, printed) := printed.take
    printed.add (layout.text [((arg.getD "").toList.head?).getD '\x00'])
  else if conversion = 'd' || conversion = 'i' then
    let (n, printed) := printed.takeNumber true
    printed.add (layout.decimal n)
  else if conversion = 'u' || conversion = 'o' || conversion = 'x' || conversion = 'X' then
    let (n, printed) := printed.takeNumber false
    printed.add (layout.unsigned conversion (bitsOf n))
  else { printed with fault := some (String.ofList text ++ ": invalid directive") }

/-- Prints one conversion, and gives what is left of the format behind its percent sign. -/
def Printed.directive (printed : Printed) (format : List Char) : Printed × List Char :=
  let isFlag (c : Char) : Bool := c = '#' || c = '-' || c = '+' || c = ' ' || c = '0'
  let flags := format.takeWhile isFlag
  let (width, printed, rest) := printed.takeCount (format.dropWhile isFlag)
  let (precision, printed, rest) :=
    match rest with
    | '.' :: rest =>
      let (n, printed, rest) := printed.takeCount rest
      (if n < 0 then none else some n.toNat, printed, rest)
    | _ => (none, printed, rest)
  let flags := if width < 0 then '-' :: flags else flags
  match rest with
  | [] => ({ printed with fault := some "missing format character" }, [])
  | c :: rest =>
    let text := '%' :: format.take (format.length - rest.length)
    (printed.convert ⟨flags, width.natAbs, precision⟩ c text, rest)

/-- Prints a format of at most `n` characters once. -/
def printOnce : Nat → Printed → List Char → Printed
  | 0, printed, _ => printed
  | _, printed, [] => printed
  | n + 1, printed, '\\' :: rest =>
    let (c, rest) := escapeAt rest
    printOnce n (printed.add [c]) rest
  | n + 1, printed, '%' :: '%' :: rest => printOnce n (printed.add ['%']) rest
  | n + 1, printed, '%' :: rest =>
    let (printed, rest) := printed.directive rest
    if printed.isCut || printed.fault.isSome then printed else printOnce n printed rest
  | n + 1, printed, c :: rest => printOnce n (printed.add [c]) rest

/-- Prints a format again and again as long as it uses up arguments and there are some left. -/
def printAll (format : List Char) : Nat → Printed → Printed
  | 0, printed => printed
  | n + 1, printed =>
    let after := printOnce format.length printed format
    if after.isCut || after.fault.isSome || after.args.isEmpty
        || after.args.length = printed.args.length then after
    else printAll format n after

/-- What `printf` comes to. -/
def printed (format : String) (args : List String) : Printed :=
  printAll format.toList (args.length + 1) { args }

end BootTrial.Shell

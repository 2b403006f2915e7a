/-!
# Shell words

A line of text as a shell would split it into words: blanks separate, quotes and backslashes keep
them together, and a `#` in front of a word opens a comment that runs to the end of the line. A
quote that is not closed, or a backslash with nothing behind it, leaves the line without a reading.
-/

namespace BootTrial.Text

/-- Where the reading of a line of words stands. -/
inductive WordMode where
  /-- Between words. -/
  | between
  /-- In a comment. -/
  | comment
  /-- In a word, outside quotes. -/
  | bare
  /-- In a word, right behind a backslash. -/
  | escape
  /-- Between single quotes. -/
  | single
  /-- Between double quotes. -/
  | double
  /-- Between double quotes, right behind a backslash. -/
  | doubleEscape

/-- Whether a character separates words. -/
def separatesWords (c : Char) : Bool :=
  c = ' ' || c = '\t' || c = '\n'

/-- Whether a backslash between double quotes makes the character behind it stand for itself. -/
def isEscapable (c : Char) : Bool :=
  c = '$' || c = '\x60' || c = '\"' || c = '\\'

/-- The words from here on. `word` is what has been read of the current word, last character
first. -/
def wordsFrom (mode : WordMode) (word : List Char) : List Char → Option (List String)
  | [] =>
    match mode with
    | .between | .comment => some []
    | .bare => some [String.ofList word.reverse]
    | .escape | .single | .double | .doubleEscape => none
  | c :: rest =>
    match mode with
    | .between =>
      if separatesWords c then wordsFrom .between [] rest
      else if c = '#' then wordsFrom .comment [] rest
      else if c = '\"' then wordsFrom .double [] rest
      else if c = '\'' then wordsFrom .single [] rest
      else if c = '\\' then wordsFrom .escape [] rest
      else wordsFrom .bare [c] rest
    | .comment => wordsFrom (if c = '\n' then .between else .comment) [] rest
    | .bare =>
      if separatesWords c then
        (wordsFrom .between [] rest).map (String.ofList word.reverse :: ·)
      else if c = '\"' then wordsFrom .double word rest
      else if c = '\'' then wordsFrom .single word rest
      else if c = '\\' then wordsFrom .escape word rest
      else wordsFrom .bare (c :: word) rest
    | .escape => wordsFrom .bare (if c = '\n' then word else c :: word) rest
    | .single => if c = '\'' then wordsFrom .bare word rest else wordsFrom .single (c :: word) rest
    | .double =>
      if c = '\"' then wordsFrom .bare word rest
      else if c = '\\' then wordsFrom .doubleEscape word rest
      else wordsFrom .double (c :: word) rest
    | .doubleEscape =>
      if isEscapable c then wordsFrom .double (c :: word) rest
      else if c = '\n' then wordsFrom .double word rest
      else wordsFrom .double (c :: '\\' :: word) rest

/-- The words of a line, if it can be read. -/
def shellWords? (s : String) : Option (List String) :=
  wordsFrom .between [] s.toList

end BootTrial.Text

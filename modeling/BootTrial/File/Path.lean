/-!
# Paths

A path is kept as it was written: the texts between its slashes, the empty ones included. So
`a//b/` has the segments `a`, nothing, `b` and nothing, an absolute path begins with an empty
segment, and the empty path is one empty segment. Joining never tidies a path up, and
`text_ofText` says that the text of a path is the one it was made from.

Only the segments that are neither empty nor a single dot name a step (`Path.steps`).
-/

namespace BootTrial

/-- The parts of a text between its slashes. -/
def splitSlashes : List Char → List (List Char)
  | [] => [[]]
  | c :: rest =>
    if c = '/' then [] :: splitSlashes rest
    else
      match splitSlashes rest with
      | [] => [[c]]
      | part :: parts => (c :: part) :: parts

/-- A text has at least one part. -/
theorem splitSlashes_ne_nil (cs : List Char) : splitSlashes cs ≠ [] := by
  fun_induction splitSlashes cs <;> simp

/-- The parts of a text, with slashes between them, are the text. -/
theorem intercalate_splitSlashes (cs : List Char) :
    ['/'].intercalate (splitSlashes cs) = cs := by
  fun_induction splitSlashes cs with
  | case1 => rfl
  | case2 rest ih =>
    obtain ⟨part, parts, h⟩ := List.exists_cons_of_ne_nil (splitSlashes_ne_nil rest)
    rw [h] at ih ⊢
    simpa [List.intercalate] using ih
  | case3 c rest _ h => exact absurd h (splitSlashes_ne_nil rest)
  | case4 c rest _ part parts h ih =>
    rw [h] at ih
    cases parts <;> simp_all [List.intercalate]

/-- A path as it was written. -/
structure Path where
  /-- The texts between the slashes. -/
  segments : List String
  deriving DecidableEq, Repr

namespace Path

/-- The path that a text spells. -/
def ofText (s : String) : Path :=
  ⟨(splitSlashes s.toList).map String.ofList⟩

/-- The text that spells a path. -/
def text (p : Path) : String :=
  "/".intercalate p.segments

/-- A path is spelled as it was written. -/
theorem text_ofText (s : String) : (ofText s).text = s := by
  rw [← String.toList_inj]
  simpa [text, ofText] using intercalate_splitSlashes s.toList

/-- Whether a path starts from the root of the file system. -/
def isAbsolute (p : Path) : Bool :=
  match p.segments with
  | "" :: _ :: _ => true
  | _ => false

/-- Whether a path ends in a slash. -/
def endsInSlash (p : Path) : Bool :=
  1 < p.segments.length && p.segments.getLast? = some ""

/-- Whether a segment leads nowhere: it is empty or a single dot. -/
def isIdle (segment : String) : Bool :=
  segment = "" || segment = "."

/-- The segments that name a step. -/
def steps (p : Path) : List String :=
  p.segments.filter (!isIdle ·)

/-- The path `q` seen from `p`: `q` itself if it is absolute, otherwise `q` behind `p` with exactly
one slash added where `p` does not end in one. -/
def append (p q : Path) : Path :=
  if q.isAbsolute then q
  else if p.segments.getLast? = some "" then ⟨p.segments.dropLast ++ q.segments⟩
  else ⟨p.segments ++ q.segments⟩

/-- The path that the text `s` spells, seen from `p`. -/
def join (p : Path) (s : String) : Path :=
  p.append (ofText s)

/-- The name at the end of a path, unless the path ends at a root or steps up. -/
def fileName? (p : Path) : Option String :=
  p.steps.getLast?.filter (· ≠ "..")

/-- The segments without those at their end that lead nowhere. The first segment stays, since it may
be a root or a leading dot. -/
def trimEnd : List String → List String
  | [] => []
  | first :: rest => first :: (rest.reverse.dropWhile isIdle).reverse

/-- The segments in front of the last step. -/
def stem (p : Path) : List String :=
  trimEnd (p.segments.reverse.dropWhile isIdle).tail.reverse

/-- The path to the entry `name` beside the one that `p` leads to. -/
def sibling (p : Path) (name : String) : Path :=
  ⟨p.stem ++ [name]⟩

/-- The fronts of `before ++ segments` that reach beyond `before` and end in a step. -/
def fronts (before : List String) : List String → List Path
  | [] => []
  | segment :: rest =>
    if isIdle segment then fronts (before ++ [segment]) rest
    else ⟨before ++ [segment]⟩ :: fronts (before ++ [segment]) rest

/-- The paths to the directories above `p`, the innermost first. -/
def ancestors (p : Path) : List Path :=
  (fronts [] p.segments).dropLast.reverse

/-- The rest of a path behind a first step `name`, without what leads nowhere at its two ends. -/
def behind? (name : String) (p : Path) : Option Path :=
  match p.segments with
  | first :: rest =>
    if first = name then
      let inner := ((rest.dropWhile isIdle).reverse.dropWhile isIdle).reverse
      some ⟨if inner.isEmpty then [""] else inner⟩
    else none
  | [] => none

end Path

end BootTrial

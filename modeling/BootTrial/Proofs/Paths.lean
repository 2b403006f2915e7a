import BootTrial.File.Walk
import BootTrial.Proofs.Tree

/-!
# Where joined paths lead

A path whose components run through directories leads to the directory at their end (`Path.Leads`).
Joining a plain name to it gives a path that is looked up under this name in that directory
(`Path.approach_join`), and leads on if a directory stands there (`Path.Leads.join`). The places at
which the components arrive on the way are listed by `arrivals`; a path still leads where it led as
long as there are directories at all of them.
-/

namespace BootTrial

/-- A name that is one step of a path and names what it leads to. -/
structure IsPlain (name : String) : Prop where
  /-- It is not empty. -/
  ne_empty : name ≠ ""
  /-- It is not a single dot. -/
  ne_dot : name ≠ "."
  /-- It is not two dots. -/
  ne_dotDot : name ≠ ".."
  /-- There is no slash in it. -/
  noSlash : '/' ∉ name.toList

/-- A text without slashes is one part. -/
theorem splitSlashes_of_not_mem {cs : List Char} (h : '/' ∉ cs) : splitSlashes cs = [cs] := by
  induction cs with
  | nil => rfl
  | cons c rest ih =>
    obtain ⟨hc, hrest⟩ : ¬ c = '/' ∧ '/' ∉ rest := by
      simpa [eq_comm] using h
    rw [splitSlashes, if_neg hc, ih hrest]

/-- The places at which components arrive that are followed from a place, one after the other. -/
def arrivals (here : Place) : List String → List Place
  | [] => []
  | component :: rest =>
    if component = "." then arrivals here rest
    else if component = ".." then arrivals here.dropLast rest
    else (here ++ [component]) :: arrivals (here ++ [component]) rest

/-- The place to which components lead that are followed from a place. -/
def destination (here : Place) : List String → Place
  | [] => here
  | component :: rest =>
    if component = "." then destination here rest
    else if component = ".." then destination here.dropLast rest
    else destination (here ++ [component]) rest

/-- A last component that is a name leads one step down. -/
theorem destination_append (here : Place) (components : List String) {name : String}
    (h : IsPlain name) :
    destination here (components ++ [name]) = destination here components ++ [name] := by
  induction components generalizing here with
  | nil => simp [destination, h.ne_dot, h.ne_dotDot]
  | cons component rest ih =>
    simp only [List.cons_append, destination]
    split
    · exact ih here
    · split
      · exact ih here.dropLast
      · exact ih (here ++ [component])

/-- A last component that is a name arrives where it leads. -/
theorem arrivals_append (here : Place) (components : List String) {name : String}
    (h : IsPlain name) :
    arrivals here (components ++ [name])
      = arrivals here components ++ [destination here components ++ [name]] := by
  induction components generalizing here with
  | nil => simp [arrivals, destination, h.ne_dot, h.ne_dotDot]
  | cons component rest ih =>
    simp only [List.cons_append, arrivals, destination]
    split
    · exact ih here
    · split
      · exact ih here.dropLast
      · simp [ih (here ++ [component])]

/-- A name in a directory under which a directory stands leads there. -/
theorem lookUp_of_hasDir {root : Node} {here : Place} {name : String}
    (h : root.HasDir (here ++ [name])) (hshort : name.utf8ByteSize ≤ nameLimit) :
    ∃ entries, lookUp root here name = .ok (.taken (here ++ [name]) (.dir entries)) := by
  obtain ⟨entries, hentries⟩ := h
  obtain ⟨own, hown⟩ := Node.hasDir_of_get?_snoc hentries
  rw [Node.get?_snoc hown] at hentries
  refine ⟨entries, ?_⟩
  rw [lookUp, hown]
  simp only [if_neg (Nat.not_lt.mpr hshort), hentries]

/-- Components that arrive at directories only are followed to their end. -/
theorem passThrough_eq_ok {root : Node} {here : Place} {components : List String}
    (hdirs : ∀ q ∈ arrivals here components, root.HasDir q)
    (hshort : ∀ component ∈ components, component.utf8ByteSize ≤ nameLimit) :
    passThrough root here components = .ok (destination here components) := by
  induction components generalizing here with
  | nil => rfl
  | cons component rest ih =>
    have hrest := fun c hc => hshort c (List.mem_cons_of_mem _ hc)
    unfold passThrough destination
    unfold arrivals at hdirs
    by_cases hdot : component = "."
    · rw [if_pos hdot] at hdirs ⊢
      rw [if_pos hdot]
      exact ih hdirs hrest
    · rw [if_neg hdot] at hdirs ⊢
      rw [if_neg hdot]
      by_cases hup : component = ".."
      · rw [if_pos hup] at hdirs ⊢
        rw [if_pos hup]
        exact ih hdirs hrest
      · rw [if_neg hup] at hdirs ⊢
        rw [if_neg hup]
        obtain ⟨entries, hentries⟩ := lookUp_of_hasDir (hdirs _ List.mem_cons_self)
          (hshort _ List.mem_cons_self)
        rw [hentries]
        exact ih (fun q hq => hdirs q (List.mem_cons_of_mem _ hq)) hrest

namespace Path

/-- The texts between the slashes that are not empty. -/
def components (p : Path) : List String :=
  p.segments.filter (· ≠ "")

/-- The place from which a path is followed. -/
def start (p : Path) (here : Place) : Place :=
  if p.isAbsolute then [] else here

/-- A path leads, through directories, to the directory at a place, and not through what lies below
that place. -/
structure Leads (p : Path) (root : Node) (here place : Place) : Prop where
  /-- The components end at the place. -/
  ends : destination (p.start here) p.components = place
  /-- Every component could name an entry of a directory. -/
  short : ∀ component ∈ p.components, component.utf8ByteSize ≤ nameLimit
  /-- The components arrive at directories. -/
  dirs : ∀ q ∈ arrivals (p.start here) p.components, root.HasDir q
  /-- They do not arrive below the place. -/
  direct : ∀ q ∈ arrivals (p.start here) p.components, place <+: q → q = place
  /-- There is a directory at the place. -/
  dir : root.HasDir place

/-- A text without slashes spells a path of one segment. -/
theorem ofText_of_not_mem {name : String} (h : '/' ∉ name.toList) : ofText name = ⟨[name]⟩ := by
  rw [ofText, splitSlashes_of_not_mem h]
  simp

/-- The segments that stay in front of a name that is joined: those of the path, without an empty
one at the end. -/
def front (p : Path) : List String :=
  if p.segments.getLast? = some "" then p.segments.dropLast else p.segments

/-- A path whose first segment is not empty is not absolute. -/
theorem isAbsolute_cons {first : String} (h : first ≠ "") (rest : List String) :
    isAbsolute ⟨first :: rest⟩ = false := by
  unfold isAbsolute
  split
  · simp_all
  · rfl

/-- The segments of a path behind which another is seen that is not absolute. -/
theorem segments_append (p : Path) {q : Path} (h : q.isAbsolute = false) :
    (p.append q).segments = p.front ++ q.segments := by
  rw [append, h, front]
  by_cases hlast : p.segments.getLast? = some ""
  · simp [hlast]
  · simp [hlast]

/-- The segments of a path behind which a plain name is joined. -/
theorem segments_join (p : Path) {name : String} (h : IsPlain name) :
    (p.join name).segments = p.front ++ [name] := by
  rw [join, ofText_of_not_mem h.noSlash, p.segments_append (isAbsolute_cons h.ne_empty [])]

/-- Two names that are joined to one path are one name. -/
theorem join_inj {p : Path} {name other : String} (hname : IsPlain name)
    (hother : IsPlain other) (h : p.join name = p.join other) : name = other := by
  have hsegments := congrArg Path.segments h
  rw [p.segments_join hname, p.segments_join hother] at hsegments
  simpa using hsegments

/-- The front of a path is the whole of it, or an empty segment follows. -/
theorem front_eq (p : Path) : p.front = p.segments ∨ p.front ++ [""] = p.segments := by
  unfold front
  by_cases hlast : p.segments.getLast? = some ""
  · obtain ⟨front, hfront⟩ := List.getLast?_eq_some_iff.mp hlast
    simp [hfront]
  · simp [hlast]

/-- The front of a path has its components. -/
theorem filter_front (p : Path) : p.front.filter (· ≠ "") = p.components := by
  rw [components]
  rcases p.front_eq with hfront | hfront
  · rw [hfront]
  · simp [← hfront]

/-- The components of a path behind which a plain name is joined. -/
theorem components_join (p : Path) {name : String} (h : IsPlain name) :
    (p.join name).components = p.components ++ [name] := by
  rw [components, p.segments_join h, List.filter_append, p.filter_front]
  simp [h.ne_empty]

/-- A front that is followed by a segment that is not empty shows whether the path is absolute. -/
theorem isAbsolute_front_append (p : Path) {name : String} (h : name ≠ "") (rest : List String) :
    isAbsolute ⟨p.front ++ name :: rest⟩ = p.isAbsolute := by
  have hname := isAbsolute_cons h rest
  unfold isAbsolute at hname ⊢
  rw [front]
  rcases p.segments with _ | ⟨first, _ | ⟨second, more⟩⟩
  · simpa using hname
  · -- A lone empty segment gives way to the name.
    by_cases hfirst : first = "" <;> simp [hfirst, hname]
  · by_cases hfirst : first = ""
    · by_cases hlast : (second :: more).getLast? = some ""
      · cases more <;> simp [hfirst, hlast]
      · simp [hfirst, hlast]
    · by_cases hlast : (second :: more).getLast? = some ""
      · cases more <;> simp [hfirst, hlast]
      · simp [hfirst, hlast]

/-- Joining a plain name keeps whether a path is absolute. -/
theorem isAbsolute_join (p : Path) {name : String} (h : IsPlain name) :
    (p.join name).isAbsolute = p.isAbsolute := by
  rw [← p.isAbsolute_front_append h.ne_empty [], ← p.segments_join h]

/-- Joining a plain name keeps where a path is followed from. -/
theorem start_join (p : Path) {name : String} (h : IsPlain name) (here : Place) :
    (p.join name).start here = p.start here := by
  rw [start, p.isAbsolute_join h, start]

/-- A path behind which a plain name is joined does not end in a slash. -/
theorem endsInSlash_join (p : Path) {name : String} (h : IsPlain name) :
    (p.join name).endsInSlash = false := by
  simp [endsInSlash, p.segments_join h, h.ne_empty]

/-- The text of segments with one more at the end. -/
theorem text_append (front : List String) (name : String) :
    (⟨front ++ [name]⟩ : Path).text
      = (if front = [] then "" else (⟨front⟩ : Path).text ++ "/") ++ name := by
  induction front with
  | nil => simp [text]
  | cons first rest ih =>
    cases rest with
    | nil => simp [text, String.intercalate_cons_cons]
    | cons second more =>
      have ih' : "/".intercalate (second :: (more ++ [name]))
          = "/".intercalate (second :: more) ++ "/" ++ name := by
        simpa [text] using ih
      simp only [text, List.cons_append, String.intercalate_cons_cons, ih']
      simp [String.append_assoc]

/-- The text of a path behind which a plain name is joined. -/
theorem text_join (p : Path) {name : String} (h : IsPlain name) :
    (p.join name).text = (if p.front = [] then "" else (⟨p.front⟩ : Path).text ++ "/") ++ name := by
  rw [← text_append, ← p.segments_join h]

/-- A path behind which a plain name is joined has a text. -/
theorem text_join_ne_empty (p : Path) {name : String} (h : IsPlain name) :
    (p.join name).text ≠ "" := by
  rw [text_join p h]
  intro hempty
  have hparts := congrArg String.toList hempty
  simp only [String.toList_append, String.toList_empty, List.append_eq_nil_iff] at hparts
  exact h.ne_empty (String.toList_eq_nil_iff.mp hparts.2)

/-- Why a path is refused for its text alone, if it is. -/
def refusal? (p : Path) : Option FileFault :=
  if p.text.toList.contains '\x00' then some .nulInPath
  else if pathLimit ≤ p.text.utf8ByteSize then some .nameTooLong
  else none

/-- A path behind which a plain name is joined comes to where the path leads through directories. -/
theorem walk_join (p : Path) (root : Node) (here : Place) {name : String} (h : IsPlain name) :
    (p.join name).walk root here
      = if (p.join name).text.toList.contains '\x00' then .error .nulInPath
        else (passThrough root (p.start here) p.components).map (⟨·, .name name, false⟩) := by
  have hcomponents : (p.join name).segments.filter (· ≠ "") = p.components ++ [name] :=
    p.components_join h
  have hstart : (if (p.join name).isAbsolute then [] else here) = p.start here :=
    p.start_join h here
  have hlast : lastPart (p.components ++ [name]) = .name name := by
    simp [lastPart, h.ne_dot, h.ne_dotDot]
  unfold walk
  rw [if_neg (p.text_join_ne_empty h), hcomponents, hstart, p.endsInSlash_join h]
  simp only [hlast, List.dropLast_concat]

/-- A path behind which a plain name is joined is looked up under this name where the path leads
through directories, unless its text is refused. -/
theorem approach_join_eq (p : Path) (root : Node) (here : Place) {name : String}
    (h : IsPlain name) :
    (p.join name).approach root here
      = match (p.join name).refusal? with
        | some fault => .error fault
        | none => (passThrough root (p.start here) p.components).map (⟨·, .name name, false⟩) := by
  unfold approach refusal?
  rw [p.walk_join root here h]
  by_cases hnul : (p.join name).text.toList.contains '\x00' = true
  · simp only [hnul]
    rfl
  · by_cases hlong : pathLimit ≤ (p.join name).text.utf8ByteSize
    · have hrefused : (!(p.join name).text.toList.contains '\x00'
          && decide (pathLimit ≤ (p.join name).text.utf8ByteSize)) = true := by
        simpa using ⟨by simpa using hnul, hlong⟩
      rw [if_pos hrefused, if_neg hnul, if_pos hlong]
    · rw [if_neg (by simp [hlong]), if_neg hnul, if_neg hnul, if_neg hlong]

/-- A path behind which a plain name is joined is looked up under this name in the directory that
the path leads to, unless its text is refused. -/
theorem approach_join {p : Path} {root : Node} {here d : Place} {name : String} (h : IsPlain name)
    (hp : passThrough root (p.start here) p.components = .ok d) :
    (p.join name).approach root here
      = match (p.join name).refusal? with
        | some fault => .error fault
        | none => .ok ⟨d, .name name, false⟩ := by
  rw [p.approach_join_eq root here h, hp]
  rfl

/-- A path that leads somewhere is followed there. -/
theorem Leads.passThrough {p : Path} {root : Node} {here d : Place} (h : p.Leads root here d) :
    BootTrial.passThrough root (p.start here) p.components = .ok d := by
  rw [passThrough_eq_ok h.dirs h.short, h.ends]

/-- A name under which a directory stands leads on. -/
theorem Leads.join {p : Path} {root : Node} {here d : Place} (h : p.Leads root here d)
    {name : String} (hname : IsPlain name) (hshort : name.utf8ByteSize ≤ nameLimit)
    (hdir : root.HasDir (d ++ [name])) : (p.join name).Leads root here (d ++ [name]) := by
  have harrivals : arrivals ((p.join name).start here) (p.join name).components
      = arrivals (p.start here) p.components ++ [d ++ [name]] := by
    rw [p.start_join hname, p.components_join hname, arrivals_append _ _ hname, h.ends]
  refine ⟨?_, ?_, ?_, ?_, hdir⟩
  · rw [p.start_join hname, p.components_join hname, destination_append _ _ hname, h.ends]
  · rw [p.components_join hname]
    intro component hmem
    rcases List.mem_append.mp hmem with hmem | hmem
    · exact h.short component hmem
    · rwa [List.mem_singleton.mp hmem]
  · rw [harrivals]
    intro q hmem
    rcases List.mem_append.mp hmem with hmem | hmem
    · exact h.dirs q hmem
    · rwa [List.mem_singleton.mp hmem]
  · rw [harrivals]
    intro q hmem hbelow
    rcases List.mem_append.mp hmem with hmem | hmem
    · -- The path itself does not arrive below its end, so not at or below the new one.
      have hq := h.direct q hmem ((List.prefix_append d [name]).trans hbelow)
      have hlength := hbelow.length_le
      rw [hq, List.length_append, List.length_singleton] at hlength
      omega
    · exact List.mem_singleton.mp hmem

/-- A path leads on where it led as long as directories stay directories. -/
theorem Leads.of_hasDir {p : Path} {root root' : Node} {here d : Place} (h : p.Leads root here d)
    (hdirs : ∀ q, root.HasDir q → ¬ (d <+: q ∧ q ≠ d) → root'.HasDir q) :
    p.Leads root' here d := by
  refine ⟨h.ends, h.short, fun q hq => hdirs q (h.dirs q hq) ?_, h.direct, hdirs d h.dir ?_⟩
  · exact fun hbelow => hbelow.2 (h.direct q hq hbelow.1)
  · exact fun hbelow => hbelow.2 rfl

/-- What is put below the place that a path leads to is not in its way. -/
theorem Leads.put_below {p : Path} {root : Node} {here d : Place} (h : p.Leads root here d)
    {below : Place} (hbelow : below ≠ []) (node : Node) :
    p.Leads (root.put node (d ++ below)) here d := by
  refine h.of_hasDir fun q hq hnot => hq.put (fun hbegins => hnot ?_) node
  refine ⟨(List.prefix_append d below).trans hbegins, fun heq => hbelow ?_⟩
  rw [heq] at hbegins
  exact List.append_right_eq_self.mp (hbegins.eq_of_length_le (by simp))

/-- What is erased below the place that a path leads to was not in its way. -/
theorem Leads.erase_below {p : Path} {root : Node} {here d : Place} (h : p.Leads root here d)
    {below : Place} (hbelow : below ≠ []) : p.Leads (root.erase (d ++ below)) here d := by
  refine h.of_hasDir fun q hq hnot => hq.erase (fun hbegins => hnot ?_)
  refine ⟨(List.prefix_append d below).trans hbegins, fun heq => hbelow ?_⟩
  rw [heq] at hbegins
  exact List.append_right_eq_self.mp (hbegins.eq_of_length_le (by simp))

/-- A path of dots leads to the working directory, however many there are. -/
theorem leads_dots (n : Nat) {root : Node} {here : Place} (h : root.HasDir here) :
    (⟨List.replicate (n + 1) "."⟩ : Path).Leads root here here := by
  have hcomponents : (⟨List.replicate (n + 1) "."⟩ : Path).components
      = List.replicate (n + 1) "." := by
    simp [components]
  have hstart : (⟨List.replicate (n + 1) "."⟩ : Path).start here = here := by
    rw [start, List.replicate_succ, isAbsolute_cons (by decide)]
    rfl
  have hdots : ∀ k, destination here (List.replicate k ".") = here
      ∧ arrivals here (List.replicate k ".") = [] := by
    intro k
    induction k with
    | zero => exact ⟨rfl, rfl⟩
    | succ k ih => simpa [List.replicate_succ, destination, arrivals] using ih
  refine ⟨?_, ?_, ?_, ?_, h⟩
  · rw [hcomponents, hstart, (hdots _).1]
  · intro component hcomponent
    rw [hcomponents] at hcomponent
    rw [List.eq_of_mem_replicate hcomponent]
    decide
  · rw [hcomponents, hstart, (hdots _).2]
    simp
  · rw [hcomponents, hstart, (hdots _).2]
    simp

/-- The path `.` leads to the working directory. -/
theorem leads_dot {root : Node} {here : Place} (h : root.HasDir here) :
    (ofText ".").Leads root here here :=
  leads_dots 0 h

end Path

end BootTrial

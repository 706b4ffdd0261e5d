import Mathlib.Data.List.Induction

/-!
# Paths up to normalisation

A path is read component by component: an empty component and `.` stay where
they are, `..` leaves the last segment.  The segments reached are kept innermost
first, so that a normalised path is a stack of segments over a base.
-/

namespace InferenceGateway.Library

/-- A component that names an entry of a directory. -/
structure Segment (component : String) : Prop where
  nonempty : component ≠ ""
  ne_dot : component ≠ "."
  ne_dots : component ≠ ".."
  whole : '/' ∉ component.toList

namespace PosixPath

/-- `..`: out of the last segment; above a relative base there is always more. -/
def up (absolute : Bool) : List String → List String
  | [] => if absolute then [] else [".."]
  | top :: rest => if top = ".." then ".." :: top :: rest else rest

/-- One component further. -/
def push (absolute : Bool) (stack : List String) (component : String) : List String :=
  if component = "" ∨ component = "." then stack
  else if component = ".." then up absolute stack
  else component :: stack

/-- All components of a relative path further. -/
def walk (absolute : Bool) (stack components : List String) : List String :=
  components.foldl (push absolute) stack

/-- The stacks of normalised paths: a relative one may begin above its base. -/
inductive Normal (absolute : Bool) : List String → Prop where
  | nil : Normal absolute []
  | above {rest : List String} (relative : absolute = false) (climbs : ∀ s ∈ rest, s = "..") :
      Normal absolute (".." :: rest)
  | inside {segment : String} {rest : List String} (named : Segment segment)
      (normal : Normal absolute rest) : Normal absolute (segment :: rest)

variable {absolute : Bool} {stack : List String} {component segment : String}

theorem push_segment (named : Segment segment) : push absolute stack segment = segment :: stack := by
  rw [push, if_neg fun skipped => skipped.elim named.nonempty named.ne_dot, if_neg named.ne_dots]

theorem push_dots : push absolute stack ".." = up absolute stack := by
  rw [push, if_neg (by decide), if_pos rfl]

theorem up_segment (named : Segment segment) : up absolute (segment :: stack) = stack :=
  if_neg named.ne_dots

/-- `..` stays on a stack of nothing else. -/
theorem up_climbs (climbs : ∀ s ∈ stack, s = "..") : up false stack = ".." :: stack := by
  cases stack with
  | nil => rfl
  | cons top rest => exact if_pos (climbs top (.head _))

theorem Normal.up (normal : Normal absolute stack) : Normal absolute (up absolute stack) := by
  cases normal with
  | nil =>
    cases absolute with
    | false => exact .above rfl nofun
    | true => exact .nil
  | above relative climbs =>
    subst relative
    rw [up_climbs (List.forall_mem_cons.mpr ⟨rfl, climbs⟩)]
    exact .above rfl (List.forall_mem_cons.mpr ⟨rfl, climbs⟩)
  | inside named normal =>
    rw [up_segment named]
    exact normal

theorem Normal.push (normal : Normal absolute stack) (whole : '/' ∉ component.toList) :
    Normal absolute (push absolute stack component) := by
  unfold PosixPath.push
  split
  · exact normal
  · next kept =>
    split
    · exact normal.up
    · next other =>
      exact .inside ⟨fun empty => kept (.inl empty), fun dot => kept (.inr dot), other, whole⟩
        normal

theorem walk_append (first second : List String) :
    walk absolute stack (first ++ second) = walk absolute (walk absolute stack first) second :=
  List.foldl_append

theorem Normal.walk {components : List String} (normal : Normal absolute stack)
    (whole : ∀ c ∈ components, '/' ∉ c.toList) : Normal absolute (walk absolute stack components) := by
  induction components generalizing stack with
  | nil => exact normal
  | cons first rest inductionHypothesis =>
    exact inductionHypothesis (normal.push (whole first (.head _)))
      fun c member => whole c (.tail _ member)

/-- The segments of a normalised path lead to it. -/
theorem Normal.walk_reverse (normal : Normal absolute stack) :
    PosixPath.walk absolute [] stack.reverse = stack := by
  induction normal with
  | nil => rfl
  | @above rest relative climbs =>
    subst relative
    have earlier : PosixPath.walk false [] rest.reverse = rest := by
      clear * - climbs
      induction rest with
      | nil => rfl
      | cons top rest inductionHypothesis =>
        have deeper : ∀ s ∈ rest, s = ".." := fun s member => climbs s (.tail _ member)
        rw [List.reverse_cons, walk_append, inductionHypothesis deeper, climbs top (.head _)]
        exact push_dots.trans (up_climbs deeper)
    rw [List.reverse_cons, walk_append, earlier]
    exact push_dots.trans (up_climbs climbs)
  | inside named normal inductionHypothesis =>
    rw [List.reverse_cons, walk_append, inductionHypothesis]
    exact push_segment named

/-- Normalising a relative path first leads to the same place. -/
theorem walk_normalized (components : List String) (whole : ∀ c ∈ components, '/' ∉ c.toList) :
    walk absolute stack (walk false [] components).reverse = walk absolute stack components := by
  induction components using List.reverseRecOn with
  | nil => rfl
  | append_singleton earlier last inductionHypothesis =>
    have before : ∀ c ∈ earlier, '/' ∉ c.toList := fun c member =>
      whole c (List.mem_append_left _ member)
    have same := inductionHypothesis before
    have normal := (Normal.nil : Normal false []).walk before
    rw [walk_append, walk_append, ← same]
    have last' := whole last (List.mem_append_right _ (.head _))
    generalize walk false [] earlier = reached at normal
    change walk absolute stack (push false reached last).reverse =
      push absolute (walk absolute stack reached.reverse) last
    have onward : push false reached last = last :: reached →
        walk absolute stack (push false reached last).reverse =
          push absolute (walk absolute stack reached.reverse) last := by
      intro pushed
      rw [pushed, List.reverse_cons, walk_append]
      rfl
    by_cases skipped : last = "" ∨ last = "."
    · rw [push, if_pos skipped, push, if_pos skipped]
    · by_cases up : last = ".."
      · subst up
        cases normal with
        | nil => exact onward rfl
        | above => exact onward rfl
        | inside named =>
          rw [push_dots, up_segment named, List.reverse_cons, walk_append, push_dots]
          exact (up_segment named).symm.trans (congrArg (up absolute) (push_segment named).symm)
      · apply onward
        rw [push, if_neg skipped, if_neg up]

/-! ### Normalised paths -/

/-- The components of a path, between its slashes. -/
def components (path : String) : List String := (path.toList.splitOn '/').map String.ofList

def isAbsolute (path : String) : Bool := path.toList.head? == some '/'

theorem not_mem_of_mem_splitOn {α : Type*} [BEq α] [LawfulBEq α] {separator : α} (text : List α) :
    ∀ part ∈ text.splitOn separator, separator ∉ part := by
  induction text with
  | nil => simp
  | cons first rest inductionHypothesis =>
    rw [List.splitOn_cons_eq_if_modifyHead]
    split
    · exact List.forall_mem_cons.mpr ⟨List.not_mem_nil, inductionHypothesis⟩
    · next other =>
      cases parts : rest.splitOn separator with
      | nil => nofun
      | cons head tail =>
        rw [parts] at inductionHypothesis
        obtain ⟨outside, others⟩ := List.forall_mem_cons.mp inductionHypothesis
        refine List.forall_mem_cons.mpr ⟨fun inside => ?_, others⟩
        rcases List.mem_cons.mp inside with rfl | later
        · exact other (beq_self_eq_true _)
        · exact outside later

theorem components_whole (path : String) : ∀ c ∈ components path, '/' ∉ c.toList := by
  intro c member
  obtain ⟨part, inside, rfl⟩ := List.mem_map.mp member
  rw [String.toList_ofList]
  exact not_mem_of_mem_splitOn _ part inside

/-- A component without slashes is one component. -/
theorem components_of_whole {path : String} (whole : '/' ∉ path.toList) :
    components path = [path] := by
  rw [components, List.splitOn_eq_singleton whole, List.map_singleton, String.ofList_toList]

theorem components_append (first second : String) :
    components (first ++ "/" ++ second) = components first ++ components second := by
  have text : (first ++ "/" ++ second).toList = first.toList ++ '/' :: second.toList := by
    rw [String.toList_append, String.toList_append, List.append_assoc]
    rfl
  rw [components, text, List.splitOn_append_cons_self, List.map_append]
  rfl

/-- The segments of a stack between slashes, outermost first. -/
def spell : List String → List Char
  | [] => []
  | [segment] => segment.toList
  | segment :: rest => spell rest ++ '/' :: segment.toList

theorem spell_cons (segment : String) (nonempty : stack ≠ []) :
    spell (segment :: stack) = spell stack ++ '/' :: segment.toList := by
  cases stack with
  | nil => exact absurd rfl nonempty
  | cons top rest => rfl

theorem Normal.whole (normal : Normal absolute stack) : ∀ s ∈ stack, '/' ∉ s.toList := by
  induction normal with
  | nil => nofun
  | above _ climbs =>
    refine List.forall_mem_cons.mpr ⟨by decide, fun s member => ?_⟩
    rw [climbs s member]
    decide
  | inside named _ inductionHypothesis =>
    exact List.forall_mem_cons.mpr ⟨named.whole, inductionHypothesis⟩

theorem components_spell (whole : ∀ s ∈ stack, '/' ∉ s.toList) (nonempty : stack ≠ []) :
    ((spell stack).splitOn '/').map String.ofList = stack.reverse := by
  induction stack with
  | nil => exact absurd rfl nonempty
  | cons segment rest inductionHypothesis =>
    obtain ⟨single, others⟩ := List.forall_mem_cons.mp whole
    by_cases outermost : rest = []
    · subst outermost
      rw [spell, List.splitOn_eq_singleton single, List.map_singleton, String.ofList_toList]
      rfl
    · rw [spell_cons segment outermost, List.splitOn_append_cons_self, List.map_append,
        inductionHypothesis others outermost, List.splitOn_eq_singleton single,
        List.map_singleton, String.ofList_toList, List.reverse_cons]

theorem Normal.nonempty (normal : Normal absolute stack) : ∀ s ∈ stack, s ≠ "" := by
  induction normal with
  | nil => nofun
  | above _ climbs =>
    refine List.forall_mem_cons.mpr ⟨by decide, fun s member => ?_⟩
    rw [climbs s member]
    decide
  | inside named _ inductionHypothesis =>
    exact List.forall_mem_cons.mpr ⟨named.nonempty, inductionHypothesis⟩

/-- A spelled stack begins with its outermost segment, and with no slash. -/
theorem head_spell (normal : Normal absolute stack) (nonempty : stack ≠ []) :
    (spell stack).head? ≠ some '/' := by
  intro slash
  have splits := components_spell normal.whole nonempty
  obtain ⟨rest, text⟩ : ∃ rest, spell stack = '/' :: rest := by
    cases text : spell stack with
    | nil => simp [text] at slash
    | cons first rest =>
      rw [text, List.head?_cons, Option.some.injEq] at slash
      exact ⟨rest, by rw [slash]⟩
  rw [text, List.splitOn_cons_eq_if_modifyHead, if_pos (beq_self_eq_true _), List.map_cons] at splits
  apply normal.nonempty "" _ rfl
  rw [← List.mem_reverse, ← splits]
  exact .head _

end PosixPath

/-- A normalised path. -/
@[ext]
structure PosixPath where
  absolute : Bool
  stack : List String
  normal : PosixPath.Normal absolute stack

namespace PosixPath

def parse (path : String) : PosixPath :=
  ⟨isAbsolute path, walk (isAbsolute path) [] (components path),
    Normal.nil.walk (components_whole path)⟩

/-- The segments between slashes; `.` for the base itself. -/
def toString (path : PosixPath) : String :=
  if path.absolute then String.ofList ('/' :: spell path.stack)
  else if path.stack = [] then "."
  else String.ofList (spell path.stack)

theorem isAbsolute_toString (path : PosixPath) : isAbsolute path.toString = path.absolute := by
  unfold toString
  split
  · next absolute => rw [isAbsolute, String.toList_ofList, absolute]; rfl
  · next relative =>
    rw [Bool.not_eq_true] at relative
    rw [relative]
    split
    · rfl
    · next nonempty =>
      rw [isAbsolute, String.toList_ofList]
      exact beq_false_of_ne (head_spell path.normal nonempty)

theorem walk_toString (path : PosixPath) :
    walk path.absolute [] (components path.toString) = path.stack := by
  have segments (nonempty : path.stack ≠ []) :
      walk path.absolute [] (((spell path.stack).splitOn '/').map String.ofList) = path.stack := by
    rw [components_spell path.normal.whole nonempty, path.normal.walk_reverse]
  unfold toString
  split
  · rw [components, String.toList_ofList, List.splitOn_cons_eq_if_modifyHead,
      if_pos (beq_self_eq_true _), List.map_cons]
    -- The slash in front leaves an empty component, which stays at the root.
    change walk path.absolute [] _ = _
    by_cases empty : path.stack = []
    · rw [empty]
      rfl
    · exact segments empty
  · split
    · next empty =>
      rw [empty]
      rfl
    · next nonempty =>
      rw [components, String.toList_ofList]
      exact segments nonempty

/-- A normalised path survives being written down. -/
theorem parse_toString (path : PosixPath) : parse path.toString = path := by
  have absolute := isAbsolute_toString path
  ext1
  · exact absolute
  · change walk (isAbsolute path.toString) [] _ = _
    rw [absolute]
    exact walk_toString path

/-! ### Entries of directories -/

/-- The entry of a directory under a name. -/
def child (path : PosixPath) (name : String) (named : Segment name) : PosixPath :=
  ⟨path.absolute, name :: path.stack, .inside named path.normal⟩

/-- A relative path, followed from a directory. -/
def descend (path : PosixPath) (relative : String) : PosixPath :=
  ⟨path.absolute, walk path.absolute path.stack (components relative),
    path.normal.walk (components_whole relative)⟩

theorem descend_segment (path : PosixPath) {name : String} (named : Segment name) :
    path.descend name = path.child name named := by
  ext1
  · rfl
  · change walk _ _ (components name) = _
    rw [components_of_whole named.whole]
    exact push_segment named

/-- Below the root and the base a name is appended after a slash. -/
theorem toString_child (path : PosixPath) {name : String} (named : Segment name)
    (nonempty : path.stack ≠ []) :
    (path.child name named).toString = path.toString ++ "/" ++ name := by
  have text : (child path name named).toString =
      if path.absolute then String.ofList ('/' :: spell path.stack ++ '/' :: name.toList)
      else String.ofList (spell path.stack ++ '/' :: name.toList) := by
    rw [toString, child, if_neg (List.cons_ne_nil _ _), spell_cons name nonempty]
    rfl
  have slash : "/".toList = ['/'] := rfl
  apply String.toList_inj.mp
  rw [text, toString, if_neg nonempty]
  split <;> simp [slash]

/-- A path taken relative to a directory, unless it is absolute. -/
def under (path directory : PosixPath) : PosixPath :=
  if path.absolute then path
  else ⟨directory.absolute, walk directory.absolute directory.stack path.stack.reverse,
    directory.normal.walk fun c member => path.normal.whole c (List.mem_reverse.mp member)⟩

theorem under_child (path directory : PosixPath) {name : String} (named : Segment name) :
    (path.child name named).under directory = (path.under directory).child name named := by
  ext1
  · unfold under child
    dsimp only
    split <;> rfl
  · unfold under child
    dsimp only
    split
    · rfl
    · change walk _ _ (name :: path.stack).reverse = name :: walk _ _ path.stack.reverse
      rw [List.reverse_cons, walk_append]
      exact push_segment named

end PosixPath

/-! ### Node's path functions -/

section Node

open PosixPath

/-- `path.normalize`, without its trailing slash. -/
def normalize (path : String) : String := (parse path).toString

/-- `path.join` of two arguments. -/
def join (first second : String) : String :=
  if first = "" then normalize second
  else if second = "" then normalize first
  else normalize (first ++ "/" ++ second)

/-- The directory a process runs in. -/
structure WorkingDirectory where
  path : String
  absolute : isAbsolute path = true

/-- `path.resolve` of one argument. -/
def resolve (cwd : WorkingDirectory) (path : String) : String :=
  if isAbsolute path then normalize path else normalize (cwd.path ++ "/" ++ path)

variable {first second name : String}

theorem isAbsolute_append (nonempty : first ≠ "") :
    isAbsolute (first ++ second) = isAbsolute first := by
  rw [isAbsolute, isAbsolute, String.toList_append]
  cases text : first.toList with
  | nil => exact absurd (String.toList_eq_nil_iff.mp text) nonempty
  | cons => rfl

theorem parse_append (nonempty : first ≠ "") (second : String) :
    parse (first ++ "/" ++ second) = (parse first).descend second := by
  have absolute : isAbsolute (first ++ "/" ++ second) = isAbsolute first := by
    rw [String.append_assoc, isAbsolute_append nonempty]
  ext1
  · exact absolute
  · change walk _ [] (components (first ++ "/" ++ second)) = _
    rw [absolute, components_append, walk_append]
    rfl

theorem parse_segment (named : Segment name) : parse name = (parse "").child name named := by
  have relative : isAbsolute name = false := by
    rw [isAbsolute, beq_eq_false_iff_ne]
    intro slash
    exact named.whole (List.mem_of_mem_head? slash)
  ext1
  · exact relative
  · change walk (isAbsolute name) [] (components name) = _
    rw [components_of_whole named.whole, relative]
    exact push_segment named

/-- Joining a name to a directory names an entry of it. -/
theorem parse_join (first : String) (named : Segment name) :
    parse (join first name) = (parse first).child name named := by
  unfold join
  split
  · next empty => rw [normalize, parse_toString, parse_segment named, empty]
  · next nonempty =>
    rw [if_neg named.nonempty, normalize, parse_toString, parse_append nonempty, descend_segment]

theorem parse_resolve (cwd : WorkingDirectory) (path : String) :
    parse (resolve cwd path) = (parse path).under (parse cwd.path) := by
  have rooted : cwd.path ≠ "" := by
    intro empty
    have absolute := cwd.absolute
    rw [empty] at absolute
    cases absolute
  unfold resolve
  split
  · next absolute =>
    rw [normalize, parse_toString]
    exact (if_pos absolute).symm
  · next relative =>
    rw [normalize, parse_toString, parse_append rooted]
    refine Eq.trans ?_ (if_neg relative).symm
    rw [Bool.not_eq_true] at relative
    ext1
    · rfl
    · change walk _ _ (components path) = walk _ _ (walk (isAbsolute path) [] _).reverse
      rw [relative, walk_normalized _ (components_whole path)]

theorem absolute_under {path directory : PosixPath} (absolute : directory.absolute = true) :
    (path.under directory).absolute = true := by
  unfold under
  split
  · assumption
  · exact absolute

theorem under_of_absolute {path directory : PosixPath} (absolute : path.absolute = true) :
    path.under directory = path := if_pos absolute

/-- Paths are resolved to normalised ones. -/
theorem toString_parse_resolve (cwd : WorkingDirectory) (path : String) :
    (parse (resolve cwd path)).toString = resolve cwd path := by
  unfold resolve
  split <;> rw [normalize, parse_toString]

/-- Joining names an entry of a directory, and resolving the path the entry of the
resolved directory. -/
theorem resolve_join (cwd : WorkingDirectory) (first : String) (named : Segment name) :
    parse (resolve cwd (join first name)) = (parse (resolve cwd first)).child name named := by
  rw [parse_resolve, parse_join first named, under_child, parse_resolve]

/-- A resolved path is absolute, and resolving it again changes nothing. -/
theorem resolve_resolve (cwd : WorkingDirectory) (path : String) :
    parse (resolve cwd (resolve cwd path)) = parse (resolve cwd path) := by
  have absolute : (parse (resolve cwd path)).absolute = true := by
    rw [parse_resolve]
    exact absolute_under cwd.absolute
  rw [parse_resolve, under_of_absolute absolute]

/-! ### Direct entries -/

/-- The path names an entry of the directory itself, and nothing deeper. -/
def EntryOf (directory path : String) : Prop :=
  ∃ name, Segment name ∧ path = directory ++ "/" ++ name

/-- The text is that of a normalised path, and not the root or the base. -/
structure Inner (path : String) : Prop where
  normalized : normalize path = path
  stack : (parse path).stack ≠ []

theorem Inner.nonempty {path : String} (inner : Inner path) : path ≠ "" := by
  rintro rfl
  exact inner.stack rfl

theorem normalize_join (first second : String) : normalize (join first second) = join first second := by
  have idempotent (path : String) : normalize (normalize path) = normalize path := by
    rw [normalize, normalize, parse_toString]
  unfold join
  split
  · exact idempotent second
  · split <;> exact idempotent _

theorem inner_join (first : String) (named : Segment name) : Inner (join first name) := by
  refine ⟨normalize_join first name, ?_⟩
  rw [parse_join first named]
  exact List.cons_ne_nil _ _

theorem Inner.resolve (cwd : WorkingDirectory) {path : String}
    (stack : (parse (resolve cwd path)).stack ≠ []) : Inner (resolve cwd path) :=
  ⟨toString_parse_resolve cwd path, stack⟩

theorem Inner.join_eq (inner : Inner first) (named : Segment name) :
    join first name = first ++ "/" ++ name := by
  rw [join, if_neg inner.nonempty, if_neg named.nonempty, normalize, parse_append inner.nonempty,
    descend_segment _ named, toString_child _ named inner.stack]
  exact congrArg (· ++ "/" ++ name) inner.normalized

theorem Inner.entry_join (inner : Inner first) (named : Segment name) :
    EntryOf first (join first name) := ⟨name, named, inner.join_eq named⟩

end Node

end InferenceGateway.Library

import Mathlib.Data.List.AList
import Mathlib.Logic.Function.Basic

/-!
# File systems

Directories one level deep, whose names are links to inodes.  A descriptor is
an inode: it stays writable after its name was renamed, replaced or removed.
Every operation is described by the names it links and the bytes it leaves.
-/

namespace InferenceGateway.Library

universe u v w

/-- Every link leads to an allocated inode of an existing directory, and no two
names share an inode. -/
structure FileSystem (Dir : Type u) (Name : Type v) (Byte : Type w) where
  /-- Existing directories with their modification times. -/
  dirs : AList fun _ : Dir => Int
  link : Dir → Name → Option Nat
  content : Nat → List Byte
  /-- Inodes allocated so far. -/
  inodes : Nat
  link_allocated : ∀ d n i, link d n = some i → i < inodes
  link_injective : ∀ d n d' n' i, link d n = some i → link d' n' = some i → d = d' ∧ n = n'

/-- Bytes written at an offset of a file; a gap before it reads as zero. -/
def splice {Byte : Type w} (zero : Byte) (content : List Byte) (offset : Nat)
    (bytes : List Byte) : List Byte :=
  content.take offset ++ List.replicate (offset - content.length) zero ++ bytes ++
    content.drop (offset + bytes.length)

theorem splice_end {Byte : Type w} (zero : Byte) (content bytes : List Byte) :
    splice zero content content.length bytes = content ++ bytes := by
  simp [splice, List.drop_eq_nil_of_le]

namespace FileSystem

variable {Dir : Type u} {Name : Type v} {Byte : Type w}

def empty : FileSystem Dir Name Byte where
  dirs := ∅
  link _ _ := none
  content _ := []
  inodes := 0
  link_allocated _ _ _ h := nomatch h
  link_injective _ _ _ _ _ h := nomatch h

variable (fs : FileSystem Dir Name Byte)

/-- The bytes under a name. -/
def read (d : Dir) (n : Name) : Option (List Byte) := (fs.link d n).map fs.content

/-- Write through a descriptor at its own offset. -/
def write (zero : Byte) (inode offset : Nat) (bytes : List Byte) : FileSystem Dir Name Byte :=
  { fs with
    content := Function.update fs.content inode (splice zero (fs.content inode) offset bytes) }

/-- Names of a file system restricted to those that satisfy `p`. -/
def restrict (p : Dir → Name → Bool) (dirs : AList fun _ : Dir => Int) :
    FileSystem Dir Name Byte :=
  { fs with
    dirs := dirs
    link := fun d n => if p d n then fs.link d n else none
    link_allocated := by
      intro d n i linked
      split at linked
      · exact fs.link_allocated _ _ _ linked
      · cases linked
    link_injective := by
      intro d₁ n₁ d₂ n₂ i first second
      split at first <;> split at second <;> try contradiction
      exact fs.link_injective _ _ _ _ _ first second }

section Directories

variable [DecidableEq Dir]

/-- `mkdir -p`. -/
def mkdir (d : Dir) (now : Int) : FileSystem Dir Name Byte :=
  if d ∈ fs.dirs then fs else { fs with dirs := fs.dirs.insert d now }

/-- `rm -rf` of a directory. -/
def removeTree (d : Dir) : FileSystem Dir Name Byte :=
  fs.restrict (fun d' _ => !(d' = d)) (fs.dirs.erase d)

variable [DecidableEq Name]

/-- `open(O_CREAT | O_TRUNC)`; none when the directory is missing. -/
def openTruncate (d : Dir) (n : Name) (now : Int) : Option (Nat × FileSystem Dir Name Byte) :=
  if d ∉ fs.dirs then none
  else match existing : fs.link d n with
    | some inode => some (inode, { fs with content := Function.update fs.content inode [] })
    | none => some (fs.inodes, {
        dirs := fs.dirs.insert d now
        link := fun d' n' => if d' = d ∧ n' = n then some fs.inodes else fs.link d' n'
        content := Function.update fs.content fs.inodes []
        inodes := fs.inodes + 1
        link_allocated := by
          intro d' n' i linked
          split at linked
          · cases linked
            exact Nat.lt_succ_self _
          · exact Nat.lt_succ_of_lt (fs.link_allocated _ _ _ linked)
        link_injective := by
          intro d₁ n₁ d₂ n₂ i first second
          split at first <;> split at second
          · simp_all
          · cases first
            exact absurd (fs.link_allocated _ _ _ second) (Nat.lt_irrefl _)
          · cases second
            exact absurd (fs.link_allocated _ _ _ first) (Nat.lt_irrefl _)
          · exact fs.link_injective _ _ _ _ _ first second })

/-- `rm -f` of one name. -/
def unlink (d : Dir) (n : Name) (now : Int) : FileSystem Dir Name Byte :=
  if (fs.link d n).isSome then
    fs.restrict (fun d' n' => !(d' = d && n' = n)) (fs.dirs.insert d now)
  else fs

/-- Rename within a directory, replacing the target; none when the source is missing. -/
def rename (d : Dir) (source target : Name) (now : Int) : Option (FileSystem Dir Name Byte) :=
  match found : fs.link d source with
  | none => none
  | some inode => some {
      dirs := fs.dirs.insert d now
      link := fun d' n' =>
        if d' = d ∧ n' = target then some inode
        else if d' = d ∧ n' = source then none else fs.link d' n'
      content := fs.content
      inodes := fs.inodes
      link_allocated := by
        intro d' n' i linked
        split at linked
        · cases linked
          exact fs.link_allocated _ _ _ found
        · split at linked
          · cases linked
          · exact fs.link_allocated _ _ _ linked
      link_injective := by
        intro d₁ n₁ d₂ n₂ i first second
        split at first
        · next here =>
          cases first
          split at second
          · next there => exact ⟨here.1.trans there.1.symm, here.2.trans there.2.symm⟩
          · split at second
            · cases second
            · next other =>
              obtain ⟨rfl, rfl⟩ := fs.link_injective _ _ _ _ _ second found
              exact absurd ⟨rfl, rfl⟩ other
        · split at first
          · cases first
          · next away =>
            split at second
            · cases second
              obtain ⟨rfl, rfl⟩ := fs.link_injective _ _ _ _ _ first found
              exact absurd ⟨rfl, rfl⟩ away
            · split at second
              · cases second
              · exact fs.link_injective _ _ _ _ _ first second }

end Directories

/-! ### What the operations do to names and bytes -/

variable {fs}

@[simp] theorem link_write (zero : Byte) (inode offset : Nat) (bytes : List Byte) :
    (fs.write zero inode offset bytes).link = fs.link := rfl

@[simp] theorem inodes_write (zero : Byte) (inode offset : Nat) (bytes : List Byte) :
    (fs.write zero inode offset bytes).inodes = fs.inodes := rfl

theorem content_write (zero : Byte) (inode offset : Nat) (bytes : List Byte) (i : Nat) :
    (fs.write zero inode offset bytes).content i =
      if i = inode then splice zero (fs.content inode) offset bytes else fs.content i := by
  simp [write, Function.update_apply]

variable [DecidableEq Dir]

@[simp] theorem link_mkdir (d : Dir) (now : Int) : (fs.mkdir d now).link = fs.link := by
  unfold mkdir
  split <;> rfl

@[simp] theorem content_mkdir (d : Dir) (now : Int) :
    (fs.mkdir d now).content = fs.content := by
  unfold mkdir
  split <;> rfl

@[simp] theorem inodes_mkdir (d : Dir) (now : Int) : (fs.mkdir d now).inodes = fs.inodes := by
  unfold mkdir
  split <;> rfl

theorem link_removeTree (d d' : Dir) (n' : Name) :
    (fs.removeTree d).link d' n' = if d' = d then none else fs.link d' n' := by
  by_cases here : d' = d <;> simp [removeTree, restrict, here]

@[simp] theorem content_removeTree (d : Dir) : (fs.removeTree d).content = fs.content := rfl

@[simp] theorem inodes_removeTree (d : Dir) : (fs.removeTree d).inodes = fs.inodes := rfl

variable [DecidableEq Name]

/-- Opening truncates the file under the name or links the name to a fresh inode. -/
theorem openTruncate_spec {d : Dir} {n : Name} {now : Int} {inode : Nat}
    {fs' : FileSystem Dir Name Byte} (opened : fs.openTruncate d n now = some (inode, fs')) :
    (∀ d' n', fs'.link d' n' = if d' = d ∧ n' = n then some inode else fs.link d' n') ∧
      fs'.content = Function.update fs.content inode [] ∧
      (fs.link d n = some inode ∧ fs'.inodes = fs.inodes ∨
        inode = fs.inodes ∧ fs'.inodes = fs.inodes + 1) := by
  unfold openTruncate at opened
  split at opened
  · cases opened
  · split at opened
    · next existing found =>
      cases opened
      refine ⟨fun d' n' => ?_, rfl, .inl ⟨found, rfl⟩⟩
      split
      · next here => rw [here.1, here.2, found]
      · rfl
    · cases opened
      exact ⟨fun _ _ => rfl, rfl, .inr ⟨rfl, rfl⟩⟩

theorem rename_spec {d : Dir} {source target : Name} {now : Int}
    {fs' : FileSystem Dir Name Byte} (renamed : fs.rename d source target now = some fs') :
    ∃ inode, fs.link d source = some inode ∧
      (∀ d' n', fs'.link d' n' =
        if d' = d ∧ n' = target then some inode
        else if d' = d ∧ n' = source then none else fs.link d' n') ∧
      fs'.content = fs.content ∧ fs'.inodes = fs.inodes := by
  unfold rename at renamed
  split at renamed
  · cases renamed
  · next inode found =>
    cases renamed
    exact ⟨inode, found, fun _ _ => rfl, rfl, rfl⟩

theorem link_unlink (d : Dir) (n : Name) (now : Int) (d' : Dir) (n' : Name) :
    (fs.unlink d n now).link d' n' = if d' = d ∧ n' = n then none else fs.link d' n' := by
  unfold unlink
  by_cases here : d' = d ∧ n' = n
  · obtain ⟨rfl, rfl⟩ := here
    split
    · simp [restrict]
    · simp_all
  · rw [if_neg here]
    split
    · simp only [restrict]
      rw [if_pos]
      simpa only [Bool.not_eq_true', Bool.and_eq_false_imp, decide_eq_true_eq, decide_eq_false_iff_not,
        not_and] using here
    · rfl

@[simp] theorem content_unlink (d : Dir) (n : Name) (now : Int) :
    (fs.unlink d n now).content = fs.content := by
  unfold unlink
  split <;> rfl

@[simp] theorem inodes_unlink (d : Dir) (n : Name) (now : Int) :
    (fs.unlink d n now).inodes = fs.inodes := by
  unfold unlink
  split <;> rfl

/-! ### The directories that exist -/

section Existing

omit [DecidableEq Name]

theorem mem_dirs_mkdir (d : Dir) (now : Int) (d' : Dir) :
    d' ∈ (fs.mkdir d now).dirs ↔ d' = d ∨ d' ∈ fs.dirs := by
  unfold mkdir
  split
  · next existing =>
    refine ⟨.inr, ?_⟩
    rintro (rfl | other)
    · exact existing
    · exact other
  · exact AList.mem_insert fs.dirs

theorem mem_dirs_removeTree (d d' : Dir) :
    d' ∈ (fs.removeTree d).dirs ↔ d' ≠ d ∧ d' ∈ fs.dirs :=
  AList.mem_erase

end Existing

theorem openTruncate_eq_none_iff {d : Dir} {n : Name} {now : Int} :
    fs.openTruncate d n now = none ↔ d ∉ fs.dirs := by
  unfold openTruncate
  split
  · next missing => exact ⟨fun _ => missing, fun _ => rfl⟩
  · next existing =>
    split <;> exact ⟨nofun, fun missing => absurd missing existing⟩

theorem mem_dirs_openTruncate {d : Dir} {n : Name} {now : Int} {inode : Nat}
    {fs' : FileSystem Dir Name Byte} (opened : fs.openTruncate d n now = some (inode, fs'))
    (d' : Dir) : d' ∈ fs'.dirs ↔ d' ∈ fs.dirs := by
  have existing : d ∈ fs.dirs := by
    by_contra missing
    rw [openTruncate_eq_none_iff.mpr missing] at opened
    cases opened
  unfold openTruncate at opened
  split at opened
  · cases opened
  · split at opened
    · cases opened
      rfl
    · cases opened
      refine (AList.mem_insert fs.dirs).trans ⟨?_, .inr⟩
      rintro (rfl | other)
      · exact existing
      · exact other

theorem mem_dirs_unlink (d : Dir) (n : Name) (now : Int) (d' : Dir) :
    d' ∈ (fs.unlink d n now).dirs ↔ d' = d ∧ (fs.link d n).isSome = true ∨ d' ∈ fs.dirs := by
  unfold unlink
  split
  · next linked =>
    refine (AList.mem_insert fs.dirs).trans (or_congr_left ?_)
    exact ⟨fun same => ⟨same, linked⟩, And.left⟩
  · next missing => exact ⟨.inr, fun either => either.resolve_left fun here => missing here.2⟩

theorem rename_eq_none_iff {d : Dir} {source target : Name} {now : Int} :
    fs.rename d source target now = none ↔ fs.link d source = none := by
  unfold rename
  split
  · next missing => exact ⟨fun _ => missing, fun _ => rfl⟩
  · next found => exact ⟨nofun, fun missing => nomatch found.symm.trans missing⟩

theorem mem_dirs_rename {d : Dir} {source target : Name} {now : Int}
    {fs' : FileSystem Dir Name Byte} (renamed : fs.rename d source target now = some fs')
    (d' : Dir) : d' ∈ fs'.dirs ↔ d' = d ∨ d' ∈ fs.dirs := by
  unfold rename at renamed
  split at renamed
  · cases renamed
  · cases renamed
    exact AList.mem_insert fs.dirs

/-! ### The bytes under other names -/

section Reading

variable {fs' : FileSystem Dir Name Byte}

omit [DecidableEq Dir] [DecidableEq Name]

theorem read_of_same {d : Dir} {n : Name} (link : fs'.link d n = fs.link d n)
    (content : ∀ i, fs.link d n = some i → fs'.content i = fs.content i) :
    fs'.read d n = fs.read d n := by
  unfold read
  rw [link]
  cases linked : fs.link d n with
  | none => rfl
  | some i => exact congrArg some (content i linked)

theorem read_write_of_ne {d : Dir} {n : Name} {inode : Nat} (away : fs.link d n ≠ some inode)
    (zero : Byte) (offset : Nat) (bytes : List Byte) :
    (fs.write zero inode offset bytes).read d n = fs.read d n := by
  refine read_of_same rfl fun i linked => ?_
  rw [content_write, if_neg]
  rintro rfl
  exact away linked

end Reading

omit [DecidableEq Name] in
@[simp] theorem read_mkdir (d : Dir) (now : Int) (d' : Dir) (n : Name) :
    (fs.mkdir d now).read d' n = fs.read d' n :=
  read_of_same (by rw [link_mkdir]) fun i _ => by rw [content_mkdir]

theorem read_unlink_of_ne {d d' : Dir} {n n' : Name} (other : ¬ (d' = d ∧ n' = n)) (now : Int) :
    (fs.unlink d n now).read d' n' = fs.read d' n' := by
  refine read_of_same ?_ fun i _ => by rw [content_unlink]
  rw [link_unlink, if_neg other]

theorem read_openTruncate_of_ne {d d' : Dir} {n n' : Name} {now : Int} {inode : Nat}
    {fs' : FileSystem Dir Name Byte} (opened : fs.openTruncate d n now = some (inode, fs'))
    (other : ¬ (d' = d ∧ n' = n)) : fs'.read d' n' = fs.read d' n' := by
  obtain ⟨links, content, -⟩ := openTruncate_spec opened
  have own : fs'.link d n = some inode := by rw [links, if_pos ⟨rfl, rfl⟩]
  have same : fs'.link d' n' = fs.link d' n' := by rw [links, if_neg other]
  refine read_of_same same fun i linked => ?_
  rw [content, Function.update_of_ne]
  rintro rfl
  exact other (fs'.link_injective _ _ _ _ _ (same.trans linked) own)

/-- The target of a rename has the bytes of its source. -/
theorem read_rename {d : Dir} {source target : Name} {now : Int}
    {fs' : FileSystem Dir Name Byte} (renamed : fs.rename d source target now = some fs') :
    ∃ inode, fs.link d source = some inode ∧ fs'.read d target = some (fs.content inode) := by
  obtain ⟨inode, found, links, content, -⟩ := rename_spec renamed
  refine ⟨inode, found, ?_⟩
  rw [read, links, if_pos ⟨rfl, rfl⟩, content]
  rfl

/-- Outside the directories that satisfy `p` no name and no byte changes, and
no file of them is linked into another one. -/
structure Within (p : Dir → Prop) (fs fs' : FileSystem Dir Name Byte) : Prop where
  links : ∀ d n, ¬ p d → fs'.link d n = fs.link d n
  contents : ∀ i < fs.inodes, (∀ d n, p d → fs.link d n ≠ some i) → fs'.content i = fs.content i
  targets : ∀ d n i, fs'.link d n = some i →
    fs.link d n = some i ∨ fs.inodes ≤ i ∨ ∃ d₀ n₀, p d₀ ∧ fs.link d₀ n₀ = some i
  inodes : fs.inodes ≤ fs'.inodes

namespace Within

variable {p : Dir → Prop} {fs' fs'' : FileSystem Dir Name Byte}

omit [DecidableEq Dir] [DecidableEq Name]

theorem trans (first : Within p fs fs') (second : Within p fs' fs'') : Within p fs fs'' := by
  have unlinked {i : Nat} (lt : i < fs.inodes) (away : ∀ d n, p d → fs.link d n ≠ some i) :
      ∀ d n, p d → fs'.link d n ≠ some i := by
    intro d n inside linked
    rcases first.targets d n i linked with same | new | ⟨d₀, n₀, inside₀, earlier⟩
    · exact away d n inside same
    · omega
    · exact away d₀ n₀ inside₀ earlier
  constructor
  · intro d n outside
    rw [second.links d n outside, first.links d n outside]
  · intro i lt away
    rw [second.contents i (Nat.lt_of_lt_of_le lt first.inodes) (unlinked lt away), first.contents i lt away]
  · intro d n i linked
    rcases second.targets d n i linked with same | new | ⟨d₀, n₀, inside, earlier⟩
    · exact first.targets d n i same
    · exact .inr (.inl (Nat.le_trans first.inodes new))
    · rcases first.targets d₀ n₀ i earlier with same | new | moved
      · exact .inr (.inr ⟨d₀, n₀, inside, same⟩)
      · exact .inr (.inl new)
      · exact .inr (.inr moved)
  · exact Nat.le_trans first.inodes second.inodes

/-- A change that only drops names. -/
theorem of_shrink (links : ∀ d n, ¬ p d → fs'.link d n = fs.link d n)
    (shrinks : ∀ d n i, fs'.link d n = some i → fs.link d n = some i)
    (content : fs'.content = fs.content) (inodes : fs'.inodes = fs.inodes) : Within p fs fs' where
  links := links
  contents := fun i _ _ => by rw [content]
  targets := fun d n i linked => .inl (shrinks d n i linked)
  inodes := Nat.le_of_eq inodes.symm

/-- Files of the other directories read the same. -/
theorem read (within : Within p fs fs') {d : Dir} (outside : ¬ p d) (n : Name) :
    fs'.read d n = fs.read d n := by
  refine read_of_same (within.links d n outside) fun i linked => ?_
  apply within.contents i (fs.link_allocated d n i linked)
  intro d₀ n₀ inside linked₀
  exact outside ((fs.link_injective d n d₀ n₀ i linked linked₀).1 ▸ inside)

end Within

omit [DecidableEq Name] in
theorem within_removeTree (d : Dir) : Within (· = d) fs (fs.removeTree d) := by
  refine .of_shrink (fun d' n outside => ?_) (fun d' n i linked => ?_) rfl rfl
  · rw [link_removeTree, if_neg outside]
  · rw [link_removeTree] at linked
    split at linked
    · cases linked
    · exact linked

omit [DecidableEq Name] in
theorem read_removeTree_of_ne {d d' : Dir} (other : d' ≠ d) (n : Name) :
    (fs.removeTree d).read d' n = fs.read d' n :=
  (within_removeTree d).read other n

theorem within_openTruncate {d : Dir} {n : Name} {now : Int} {inode : Nat}
    {fs' : FileSystem Dir Name Byte} (opened : fs.openTruncate d n now = some (inode, fs')) :
    Within (· = d) fs fs' := by
  obtain ⟨links, content, found⟩ := openTruncate_spec opened
  constructor
  · intro d' n' outside
    rw [links, if_neg fun here => outside here.1]
  · intro i lt away
    rw [content, Function.update_of_ne]
    rintro rfl
    rcases found with ⟨existing, -⟩ | ⟨fresh, -⟩
    · exact away d n rfl existing
    · omega
  · intro d' n' i linked
    rw [links] at linked
    split at linked
    · cases linked
      rcases found with ⟨existing, -⟩ | ⟨fresh, -⟩
      · exact .inr (.inr ⟨d, n, rfl, existing⟩)
      · exact .inr (.inl (Nat.le_of_eq fresh.symm))
    · exact .inl linked
  · rcases found with ⟨-, same⟩ | ⟨-, more⟩ <;> omega

theorem within_rename {d : Dir} {source target : Name} {now : Int}
    {fs' : FileSystem Dir Name Byte} (renamed : fs.rename d source target now = some fs') :
    Within (· = d) fs fs' := by
  obtain ⟨inode, found, links, content, inodes⟩ := rename_spec renamed
  constructor
  · intro d' n outside
    rw [links, if_neg fun here => outside here.1, if_neg fun here => outside here.1]
  · intro i _ _
    rw [content]
  · intro d' n i linked
    rw [links] at linked
    split at linked
    · cases linked
      exact .inr (.inr ⟨d, source, rfl, found⟩)
    · split at linked
      · cases linked
      · exact .inl linked
  · rw [inodes]

omit [DecidableEq Dir] [DecidableEq Name] in
/-- A descriptor whose name is in one of the directories. -/
theorem within_write {p : Dir → Prop} {d : Dir} {n : Name} {inode : Nat}
    (linked : fs.link d n = some inode) (inside : p d) (zero : Byte) (offset : Nat)
    (bytes : List Byte) : Within p fs (fs.write zero inode offset bytes) := by
  refine ⟨fun _ _ _ => rfl, fun i _ away => ?_, fun _ _ _ same => .inl same, Nat.le_refl _⟩
  rw [content_write, if_neg]
  rintro rfl
  exact away d n inside linked

end FileSystem

end InferenceGateway.Library

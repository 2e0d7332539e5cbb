import Mathlib.Data.List.Basic

/-!
# Lexical resolution of paths

A path is split at the slashes and walked name by name, without following
links: an empty name and `.` stay where the walk is, `..` goes one directory
up and every other name goes down.  A walk without `..` never leaves the
directory where it begins.
-/

namespace LexicalPath

/-- The names between the slashes of a path. -/
def components (path : List Char) : List (List Char) :=
  path.splitOn '/'

/-- Where a walk is: as many directories above its origin as `ups` says, and
then down by `names`.  There is nothing above the root directory. -/
structure Place where
  absolute : Bool
  ups : Nat
  names : List (List Char)
  deriving DecidableEq

namespace Place

variable {place base : Place}

def up (place : Place) : Place :=
  if place.names ≠ [] then { place with names := place.names.dropLast }
  else if place.absolute then place
  else { place with ups := place.ups + 1 }

def enter (place : Place) (name : List Char) : Place :=
  if name = [] ∨ name = ['.'] then place
  else if name = ['.', '.'] then place.up
  else { place with names := place.names ++ [name] }

def walk (place : Place) (names : List (List Char)) : Place :=
  names.foldl enter place

/-- The place is the directory `base` or below it. -/
structure Within (place base : Place) : Prop where
  absolute : place.absolute = base.absolute
  ups : place.ups = base.ups
  names : base.names <+: place.names

theorem Within.refl (place : Place) : place.Within place :=
  ⟨rfl, rfl, List.prefix_refl _⟩

theorem Within.enter (within : place.Within base) {name : List Char}
    (down : name ≠ ['.', '.']) : (place.enter name).Within base := by
  rw [Place.enter, if_neg down]
  split
  · exact within
  · constructor
    · exact within.absolute
    · exact within.ups
    · exact within.names.trans (List.prefix_append _ _)

/-- A walk that never goes up stays within the directory. -/
theorem Within.walk (within : place.Within base) {names : List (List Char)}
    (down : ['.', '.'] ∉ names) : (place.walk names).Within base := by
  induction names generalizing place with
  | nil => exact within
  | cons name names induction =>
      obtain ⟨first, rest⟩ := List.ne_and_not_mem_of_not_mem_cons down
      exact induction (within.enter first.symm) rest

theorem walk_append (place : Place) (before after : List (List Char)) :
    place.walk (before ++ after) = (place.walk before).walk after :=
  List.foldl_append

theorem walk_nil_name (place : Place) : place.walk [[]] = place := by
  simp [walk, enter]

end Place

/-- Where the walk along a path begins. -/
def origin (path : List Char) : Place :=
  { absolute := path.head? == some '/', ups := 0, names := [] }

/-- The directory or file that a path denotes. -/
def resolve (path : List Char) : Place :=
  (origin path).walk (components path)

/-- The first name is what stands before the first slash, and every name is a
piece of the path. -/
theorem components_pieces (path : List Char) :
    ∃ first rest, components path = first :: rest ∧ first <+: path ∧
      ∀ name ∈ rest, name <:+: path := by
  induction path with
  | nil => exact ⟨[], [], rfl, List.prefix_refl _, by simp⟩
  | cons letter path induction =>
      obtain ⟨first, rest, isSplit, isFirst, pieces⟩ := induction
      rw [components] at isSplit
      rw [components, List.splitOn_cons_eq_if_modifyHead, isSplit]
      split
      · refine ⟨[], first :: rest, rfl, List.nil_prefix, ?_⟩
        refine List.forall_mem_cons.mpr ⟨List.infix_cons isFirst.isInfix, ?_⟩
        intro name isName
        exact List.infix_cons (pieces name isName)
      · refine ⟨letter :: first, rest, rfl, ?_, fun name isName => ?_⟩
        · exact List.cons_prefix_cons.mpr ⟨rfl, isFirst⟩
        · exact List.infix_cons (pieces name isName)

theorem infix_of_mem_components {path name : List Char}
    (isName : name ∈ components path) : name <:+: path := by
  obtain ⟨first, rest, isSplit, isFirst, pieces⟩ := components_pieces path
  rw [isSplit] at isName
  rcases List.mem_cons.mp isName with rfl | later
  · exact isFirst.isInfix
  · exact pieces name later

theorem components_append_slash (base path : List Char) :
    components (base ++ '/' :: path) = components base ++ components path :=
  List.splitOn_append_cons_self base path

/-- A path continued at a slash goes through what its base denotes. -/
theorem walk_components_append_slash (place : Place)
    (base path : List Char) :
    place.walk (components (base ++ '/' :: path)) =
      (place.walk (components base)).walk (components path) := by
  rw [components_append_slash, Place.walk_append]

/-- A slash at the end of a path changes nothing. -/
theorem walk_components_slash (place : Place) (base : List Char) :
    place.walk (components (base ++ ['/'])) =
      place.walk (components base) := by
  rw [walk_components_append_slash]
  exact Place.walk_nil_name _

/-- The walk along the path goes through the directory that `root` denotes,
and from there it never leaves it. -/
structure Through (path root : List Char) : Prop where
  origin : origin path = origin root
  split : ∃ upto rest, components path = upto ++ rest ∧
    upto <+: components root ∧
    (LexicalPath.origin path).walk upto = resolve root ∧
    ['.', '.'] ∉ rest ∧
    ∀ walked, walked <+: rest →
      ((LexicalPath.origin path).walk (upto ++ walked)).Within (resolve root)

theorem Through.of_split {path root : List Char}
    {upto rest : List (List Char)}
    (sameOrigin : LexicalPath.origin path = LexicalPath.origin root)
    (isSplit : components path = upto ++ rest)
    (isRoot : upto <+: components root)
    (arrives : (LexicalPath.origin path).walk upto = resolve root)
    (down : ['.', '.'] ∉ rest) : Through path root := by
  refine ⟨sameOrigin, upto, rest, isSplit, isRoot, arrives, down, ?_⟩
  intro walked isPrefix
  rw [Place.walk_append, arrives]
  apply (Place.Within.refl _).walk
  intro isUp
  exact down (isPrefix.subset isUp)

theorem Through.refl (root : List Char) : Through root root :=
  .of_split rfl (List.append_nil _).symm (List.prefix_refl _) rfl
    List.not_mem_nil

/-- What is added to a directory at a slash stays inside if it holds no two
dots in a row.  The directory may have been written with a slash at its
end. -/
theorem Through.of_append_slash {base root added : List Char}
    (isRoot : root = base ∧ base ≠ [] ∨ root = base ++ ['/'])
    (noDots : ¬['.', '.'] <:+: added) :
    Through (base ++ '/' :: added) root := by
  have down : ['.', '.'] ∉ components added := by
    intro isName
    exact noDots (infix_of_mem_components isName)
  rcases isRoot with ⟨rfl, nonempty⟩ | rfl
  · have sameOrigin : LexicalPath.origin (root ++ '/' :: added) =
        LexicalPath.origin root := by
      rw [LexicalPath.origin, List.head?_append_of_ne_nil _ nonempty,
        LexicalPath.origin]
    apply of_split sameOrigin (components_append_slash root added)
      (List.prefix_refl _) _ down
    rw [sameOrigin, resolve]
  · have sameOrigin : LexicalPath.origin (base ++ '/' :: added) =
        LexicalPath.origin (base ++ ['/']) := by
      cases base with
      | nil => rfl
      | cons letter base => rfl
    apply of_split sameOrigin (components_append_slash base added) _ _ down
    · rw [components_append_slash]
      exact List.prefix_append _ _
    · rw [sameOrigin, resolve, walk_components_slash]

end LexicalPath

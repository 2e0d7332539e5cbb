import Webservice.File.Handler
import Webservice.Library.LexicalPath

/-!
# Requests stay inside the document root

The handler refuses a target with two dots in a row, and it joins the target
to the document root at a slash, so that no name of the target grows together
with one of the document root.
-/

namespace Webservice

/-! ## The string that is opened -/

theorem cStr_append_of_not_mem {before : List Char} (after : List Char)
    (noNul : Char.ofNat 0 ∉ before) :
    cStr (before ++ after) = before ++ cStr after := by
  apply List.takeWhile_append_of_pos
  intro letter isLetter
  simp only [ne_eq, decide_not, Bool.not_eq_true', decide_eq_false_iff_not]
  rintro rfl
  exact noNul isLetter

theorem cStr_append_of_mem {before : List Char} (after : List Char)
    (nul : Char.ofNat 0 ∈ before) :
    cStr (before ++ after) = cStr before := by
  obtain ⟨first, rest, rfl, noNul⟩ := List.eq_append_cons_of_mem nul
  rw [List.append_assoc, cStr_append_of_not_mem _ noNul,
    cStr_append_of_not_mem _ noNul]
  rfl

theorem cStr_begins (text : List Char) : cStr text <+: text :=
  List.takeWhile_prefix _

/-! ## The path -/

/-- The document root is what the path begins with, up to a slash at its
end. -/
theorem withoutSlash_cases {root : List Char} (nonempty : root ≠ []) :
    root = withoutSlash root ∧ withoutSlash root ≠ [] ∨
      root = withoutSlash root ++ ['/'] := by
  rw [withoutSlash]
  split
  · next slash => exact .inr (List.dropLast_append_getLast? _ slash).symm
  · exact .inl ⟨rfl, nonempty⟩

namespace FileRequestHandler

variable {handler : FileRequestHandler} {req : FileRequest}

theorem legal_target (legal : isIllegalRequestTarget req = false) :
    (∃ target, req.target = '/' :: target) ∧
      ¬['.', '.'] <:+: req.target := by
  simp only [isIllegalRequestTarget, Bool.or_eq_false_iff,
    List.isEmpty_eq_false_iff, bne_eq_false_iff_eq,
    decide_eq_false_iff_not] at legal
  obtain ⟨⟨-, slash⟩, noDots⟩ := legal
  exact ⟨List.head?_eq_some_iff.mp slash, noDots⟩

/-- The name that is appended does not begin with a dot. -/
theorem noDots_index {target : List Char}
    (noDots : ¬['.', '.'] <:+: target) (slash : target.getLast? = some '/') :
    ¬['.', '.'] <:+: target ++ "index.html".toList := by
  obtain ⟨before, rfl⟩ := List.getLast?_eq_some_iff.mp slash
  intro dots
  rcases List.infix_append_iff_ne_nil.mp dots with
    inTarget | inIndex | ⟨first, second, some_first, some_second, both,
      isSuffix, -⟩
  · exact noDots inTarget
  · revert inIndex
    decide
  · have single : first = ['.'] := by
      cases first with
      | nil => exact absurd rfl some_first
      | cons dot rest =>
          cases rest with
          | nil =>
              rw [(List.cons.inj both).1]
          | cons other rest =>
              have none := (List.cons.inj (List.cons.inj both).2).2
              exact absurd (List.append_eq_nil_iff.mp none.symm).2 some_second
    rw [single, List.singleton_suffix_append_singleton_iff] at isSuffix
    exact absurd isSuffix (by decide)

/-- The path is the document root, a slash and something without two dots in
a row. -/
theorem withPath_eq (nonempty : handler.docRoot ≠ [])
    (legal : isIllegalRequestTarget req = false) :
    ∃ added, handler.withPath req.target =
        withoutSlash handler.docRoot ++ '/' :: added ∧
      ¬['.', '.'] <:+: '/' :: added := by
  obtain ⟨⟨target, isTarget⟩, noDots⟩ := legal_target legal
  rw [withPath, pathConcat, if_neg nonempty]
  split
  · next slash =>
      refine ⟨target ++ "index.html".toList, ?_, ?_⟩
      · rw [isTarget, List.append_assoc, List.cons_append]
      · rw [← List.cons_append, ← isTarget]
        exact noDots_index noDots slash
  · refine ⟨target, by rw [isTarget], ?_⟩
    rw [← isTarget]
    exact noDots

theorem withPath_through (nonempty : handler.docRoot ≠ [])
    (legal : isIllegalRequestTarget req = false) :
    LexicalPath.Through (cStr (handler.withPath req.target))
      (cStr handler.docRoot) := by
  obtain ⟨added, isPath, noDots⟩ := withPath_eq nonempty legal
  have noDots : ¬['.', '.'] <:+: cStr added := by
    intro dots
    apply noDots
    exact List.infix_cons (dots.trans (cStr_begins added).isInfix)
  have isRoot := withoutSlash_cases nonempty
  rw [isPath]
  generalize withoutSlash handler.docRoot = base at isRoot ⊢
  by_cases nul : Char.ofNat 0 ∈ base
  · -- What stands behind the NUL is not part of the path.
    have sameRoot : cStr handler.docRoot = cStr base := by
      rcases isRoot with ⟨same, -⟩ | slash
      · rw [same]
      · rw [slash, cStr_append_of_mem _ nul]
    rw [cStr_append_of_mem _ nul, sameRoot]
    exact .refl _
  · have isAdded : cStr (base ++ '/' :: added) = base ++ '/' :: cStr added := by
      rw [cStr_append_of_not_mem _ nul]
      rfl
    rw [isAdded]
    apply LexicalPath.Through.of_append_slash _ noDots
    rcases isRoot with ⟨same, some_base⟩ | slash
    · left
      rw [same]
      have whole := cStr_append_of_not_mem [] nul
      rw [List.append_nil] at whole
      exact ⟨by rw [whole]; exact List.append_nil _, some_base⟩
    · right
      rw [slash, cStr_append_of_not_mem _ nul]
      rfl

/-- Every path that the handler opens goes through the document root, as the
operating system sees it, and stays inside. -/
theorem opens_through (nonempty : handler.docRoot ≠ [])
    (fileSystem : FileSystem) :
    (isIllegalRequestTarget req = false →
      LexicalPath.Through (cStr (handler.withPath req.target))
        (cStr handler.docRoot)) ∧
    ∀ path, (handler.serve fileSystem req).opens = some path →
      path = cStr (handler.withPath req.target) ∧
        LexicalPath.Through path (cStr handler.docRoot) := by
  refine ⟨withPath_through nonempty, fun path opens => ?_⟩
  rw [serve] at opens
  split at opens
  · cases opens
  · split at opens
    · cases opens
    · next legal =>
        cases opens
        rw [Bool.not_eq_true] at legal
        exact ⟨rfl, withPath_through nonempty legal⟩

/-- A document root above the working directory, written with a slash at its
end. -/
theorem opens_through_parent :
    LexicalPath.Through "../web/index.html".toList "../web/".toList := by
  have opens := (@opens_through { docRoot := "../web/".toList }
    { method := .get, target := "/".toList, version := 11, keepAlive := true }
    (by decide) fun _ => .noSuchFile).1
  exact opens (by decide)

end FileRequestHandler

end Webservice

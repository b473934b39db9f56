import HouseStyle.Text.Path
import Mathlib

namespace HouseStyle.Path

/-!
# Spellings of paths

A path that was read from a spelling has a root of at most two slashes, and each
of its components is neither empty nor a dot and holds no slash. Such a path is
read back from its normal spelling. So each path has one normal spelling, and
two normal spellings are of two paths.
-/

/-- What stands between the slashes of a path. -/
structure IsComponent (name : String) : Prop where
  notEmpty : name ≠ ""
  notHere : name ≠ "."
  noSlash : '/' ∉ name.toList

/-- A path as it is read from spellings. -/
structure IsNormal (path : Path) : Prop where
  root : path.root = "" ∨ path.root = "/" ∨ path.root = "//"
  components : ∀ name ∈ path.components, IsComponent name

/-- What stands between the slashes of a text, but for nothing and a dot. -/
def namesIn (text : List Char) : List String :=
  ((text.splitOn '/').map String.ofList).filter fun name =>
    name != "" && name != "."

/-- A text is split at its slashes. -/
theorem pieces_eq_splitOn (text : List Char) :
    pieces text = text.splitOn '/' := by
  induction text with
  | nil =>
      rfl
  | cons character rest inductionHypothesis =>
      rw [List.splitOn_cons_eq_if_modifyHead, ← inductionHypothesis]
      unfold pieces
      rw [List.foldr_cons]
      by_cases isSlash : character = '/'
      · rw [if_pos isSlash, if_pos (beq_iff_eq.mpr isSlash)]
      · rw [if_neg isSlash, if_neg (by simpa using isSlash)]
        cases found : rest.foldr _ [[]] with
        | nil =>
            have nonempty := List.splitOn_ne_nil '/' rest
            rw [← inductionHypothesis, pieces, found] at nonempty
            exact (nonempty rfl).elim
        | cons piece pieces =>
            rfl

theorem ofString_eq (spelling : String) :
    ofString spelling =
      { root := rootOf spelling.toList
        components := namesIn spelling.toList } := by
  rw [ofString, pieces_eq_splitOn]
  rfl

/-- A part between slashes holds none. -/
theorem slash_notMem_of_mem_splitOn
    {text piece : List Char}
    (member : piece ∈ text.splitOn '/') :
    '/' ∉ piece := by
  induction text generalizing piece with
  | nil =>
      rw [List.splitOn_nil, List.mem_singleton] at member
      rw [member]
      exact List.not_mem_nil
  | cons character rest inductionHypothesis =>
      rw [List.splitOn_cons_eq_if_modifyHead] at member
      split at member
      · rcases List.mem_cons.mp member with rfl | inRest
        · exact List.not_mem_nil
        · exact inductionHypothesis inRest
      · next notSlash =>
          cases areSplit : rest.splitOn '/' with
          | nil =>
              exact (List.splitOn_ne_nil '/' rest areSplit).elim
          | cons first others =>
              rw [areSplit] at member inductionHypothesis
              rcases List.mem_cons.mp member with rfl | inRest
              · have inFirst := inductionHypothesis (List.mem_cons_self ..)
                simp only [beq_iff_eq] at notSlash
                simp [inFirst, Ne.symm notSlash]
              · exact inductionHypothesis (List.mem_cons_of_mem _ inRest)

/-- A path that is read from a spelling is normal. -/
theorem isNormal_ofString (spelling : String) :
    (ofString spelling).IsNormal := by
  rw [ofString_eq]
  refine ⟨?_, fun name member => ?_⟩
  · simp only
    unfold rootOf
    split <;> simp
  · obtain ⟨isPiece, isNamed⟩ := List.mem_filter.mp member
    obtain ⟨piece, inText, rfl⟩ := List.mem_map.mp isPiece
    simp only [Bool.and_eq_true, bne_iff_ne] at isNamed
    refine ⟨isNamed.1, isNamed.2, ?_⟩
    rw [String.toList_ofList]
    exact slash_notMem_of_mem_splitOn inText

/-- A slash in front adds no name. -/
theorem namesIn_slash (text : List Char) :
    namesIn ('/' :: text) = namesIn text := by
  unfold namesIn
  rw [List.splitOn_cons_eq_if_modifyHead, if_pos (beq_self_eq_true '/')]
  rfl

/-- Components with slashes between them are read one by one. -/
theorem namesIn_intercalate
    {names : List String}
    (areComponents : ∀ name ∈ names, IsComponent name) :
    namesIn (['/'].intercalate (names.map String.toList)) = names := by
  have areNamed :
      names.filter (fun name => name != "" && name != ".") = names := by
    refine List.filter_eq_self.mpr fun name member => ?_
    simp [(areComponents name member).notEmpty,
      (areComponents name member).notHere]
  cases isThere : names with
  | nil =>
      rfl
  | cons name others =>
      rw [← isThere]
      have areSplit :
          (['/'].intercalate (names.map String.toList)).splitOn '/' =
            names.map String.toList := by
        refine List.splitOn_intercalate '/' ?_ (by simp [isThere])
        intro piece member
        obtain ⟨name, isName, rfl⟩ := List.mem_map.mp member
        exact (areComponents name isName).noSlash
      have areRead :
          (names.map String.toList).map String.ofList = names := by
        simp [Function.comp_def]
      rw [namesIn, areSplit, areRead, areNamed]

/-- Components that are joined do not start with a slash. -/
theorem head?_intercalate
    {names : List String}
    (areComponents : ∀ name ∈ names, IsComponent name) :
    (['/'].intercalate (names.map String.toList)).head? ≠ some '/' := by
  cases names with
  | nil =>
      simp
  | cons name others =>
      have isComponent := areComponents name (List.mem_cons_self ..)
      cases isSpelled : name.toList with
      | nil =>
          exact (isComponent.notEmpty (String.toList_eq_nil_iff.mp isSpelled)).elim
      | cons first rest =>
          have notSlash : first ≠ '/' := by
            rintro rfl
            refine isComponent.noSlash ?_
            rw [isSpelled]
            exact List.mem_cons_self ..
          cases others <;> simp [isSpelled, notSlash]

/-- A root in front of a text that starts with no slash is its root. -/
theorem rootOf_append
    {root : String}
    {text : List Char}
    (isRoot : root = "" ∨ root = "/" ∨ root = "//")
    (noSlash : text.head? ≠ some '/') :
    rootOf (root.toList ++ text) = root := by
  cases text with
  | nil =>
      rcases isRoot with rfl | rfl | rfl <;> rfl
  | cons first rest =>
      have notSlash : first ≠ '/' := by simpa using noSlash
      rcases isRoot with rfl | rfl | rfl <;> simp [rootOf, notSlash]

/-- A root in front adds no name. -/
theorem namesIn_append
    {root : String}
    (isRoot : root = "" ∨ root = "/" ∨ root = "//")
    (text : List Char) :
    namesIn (root.toList ++ text) = namesIn text := by
  rcases isRoot with rfl | rfl | rfl
  · rfl
  · exact namesIn_slash text
  · exact (namesIn_slash ('/' :: text)).trans (namesIn_slash text)

/-- A normal path is read back from its normal spelling. -/
theorem IsNormal.ofString_render
    {path : Path}
    (isNormal : path.IsNormal) :
    ofString path.render = path := by
  obtain ⟨root, components⟩ := path
  obtain ⟨isRoot, areComponents⟩ := isNormal
  have isSpelled :
      (root ++ "/".intercalate components).toList =
        root.toList ++ ['/'].intercalate (components.map String.toList) := by
    rw [String.toList_append, String.toList_intercalate]
    rfl
  have isRead :
      ofString (root ++ "/".intercalate components) = ⟨root, components⟩ := by
    rw [ofString_eq, isSpelled,
      rootOf_append isRoot (head?_intercalate areComponents),
      namesIn_append isRoot, namesIn_intercalate areComponents]
  rw [render]
  simp only
  split
  · -- The empty path is written as a dot, and a dot is read as the empty path.
    next isEmpty =>
      rw [beq_iff_eq.mp isEmpty] at isRead
      exact isRead
  · exact isRead

/-- So is a path that was read. -/
theorem ofString_render_ofString (spelling : String) :
    ofString (ofString spelling).render = ofString spelling :=
  (isNormal_ofString spelling).ofString_render

/-- A component is a path of one component. -/
theorem IsComponent.ofString_eq
    {name : String}
    (isComponent : IsComponent name) :
    ofString name = { root := "", components := [name] } := by
  have isNormal : IsNormal { root := "", components := [name] } :=
    ⟨.inl rfl, fun other member => List.mem_singleton.mp member ▸ isComponent⟩
  have isSpelled : render { root := "", components := [name] } = name := by
    simp [render, String.intercalate_singleton, isComponent.notEmpty]
  calc
    ofString name = ofString (render { root := "", components := [name] }) := by
      rw [isSpelled]
    _ = { root := "", components := [name] } := isNormal.ofString_render

/-! ## Absolute paths -/

/-- A path whose spelling starts with a slash. -/
def IsRooted (path : Path) : Prop :=
  path.root = "/" ∨ path.root = "//"

/-- A rooted path is absolute. -/
theorem IsRooted.isAbsolute
    {path : Path}
    (isRooted : path.IsRooted) :
    path.isAbsolute = true := by
  rw [Path.isAbsolute]
  rcases isRooted with isRoot | isRoot <;> rw [isRoot] <;> decide

/-- A path with the root of a normal one is rooted if it is absolute. -/
theorem isRooted_of_isAbsolute
    {path : Path}
    (isRoot : path.root = "" ∨ path.root = "/" ∨ path.root = "//")
    (isAbsolute : path.isAbsolute = true) :
    path.IsRooted := by
  refine isRoot.resolve_left fun noRoot => ?_
  rw [Path.isAbsolute, noRoot] at isAbsolute
  cases isAbsolute

/-- The normal spelling of a rooted path is read as an absolute path. -/
theorem IsRooted.isAbsolute_ofString_render
    {path : Path}
    (isRooted : path.IsRooted) :
    (ofString path.render).isAbsolute = true := by
  have isSpelled : ∃ rest, path.render.toList = '/' :: rest := by
    have isNamed :
        ∃ rest, (path.root ++ "/".intercalate path.components).toList =
          '/' :: rest := by
      rw [String.toList_append]
      rcases isRooted with isRoot | isRoot <;> rw [isRoot] <;>
        exact ⟨_, rfl⟩
    obtain ⟨rest, isNamed⟩ := isNamed
    have notEmpty : path.root ++ "/".intercalate path.components ≠ "" := by
      intro isEmpty
      rw [isEmpty] at isNamed
      cases isNamed
    refine ⟨rest, ?_⟩
    rw [render, if_neg (by simpa using notEmpty)]
    exact isNamed
  obtain ⟨rest, isSpelled⟩ := isSpelled
  rw [ofString_eq, Path.isAbsolute, isSpelled, bne_iff_ne]
  unfold rootOf
  split <;> simp_all

/-- What is seen from a rooted path is rooted. -/
theorem IsRooted.join
    {path other : Path}
    (isRooted : path.IsRooted)
    (isRoot : other.root = "" ∨ other.root = "/" ∨ other.root = "//") :
    (path.join other).IsRooted := by
  unfold Path.join
  split
  · next isAbsolute => exact isRooted_of_isAbsolute isRoot isAbsolute
  · exact isRooted

end HouseStyle.Path

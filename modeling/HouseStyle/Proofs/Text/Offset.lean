import HouseStyle.Text.Line
import HouseStyle.Text.Position
import Mathlib.Data.List.Induction

namespace HouseStyle

/-!
# Offsets, positions and lines

The place of a character is fixed by its offset alone: its line is one more than
the number of line feeds before it, its column one more than the number of
characters since the last of them. Going over a text character by character
leads to this place, and the physical lines of the text have the character
there, unless it is part of a line break.
-/

namespace Position

/-- The place behind some characters at the head of a text. -/
def behind (passed : List Char) : Position where
  line := passed.count '\n' + 1
  column := (passed.reverse.takeWhile (· != '\n')).length + 1

/-- The place of the character at an offset. -/
def ofOffset
    (text : List Char)
    (offset : Nat) :
    Position :=
  behind (text.take offset)

/-- Going over a text leads to the place behind it. -/
theorem advance_origin (passed : List Char) :
    origin.advance passed = behind passed := by
  induction passed using List.reverseRecOn with
  | nil =>
      rfl
  | append_singleton passed last inductionHypothesis =>
      rw [advance_append, inductionHypothesis]
      by_cases isBreak : last = '\n' <;>
        simp [advance, next, behind, isBreak]

theorem line_ofOffset_mono
    {text : List Char}
    {earlier later : Nat}
    (notAfter : earlier ≤ later) :
    (ofOffset text earlier).line ≤ (ofOffset text later).line := by
  have isPart : (text.take earlier).Sublist (text.take later) :=
    (List.take_prefix_take_left notAfter).sublist
  exact Nat.succ_le_succ (isPart.count_le '\n')

end Position

/-- Dropping the carriage returns behind a character leaves the character. -/
theorem Line.close_keeps
    {last : Char}
    (isKept : last ≠ '\r')
    (number : Nat)
    (more kept : List Char) :
    (last :: kept).reverse <+:
      (Line.close number (more ++ last :: kept)).text.toList := by
  have dropped :
      (more ++ last :: kept).dropWhile (· == '\r') =
        more.dropWhile (· == '\r') ++ last :: kept := by
    rw [List.dropWhile_append]
    split
    · next isEmpty =>
        simp [List.isEmpty_iff.mp isEmpty, isKept]
    · rfl
  rw [Line.close, String.toList_ofList, dropped, List.reverse_append]
  exact List.prefix_append _ _

/-- Finished lines stay as they are. -/
theorem collectLines_keeps
    {finished : Array Line}
    {index : Nat}
    (isThere : index < finished.size)
    (reversed text : List Char) :
    (collectLines finished reversed text)[index]? = finished[index]? := by
  induction text generalizing finished reversed with
  | nil =>
      rw [collectLines]
      split
      · rfl
      · rw [Array.getElem?_push, if_neg (Nat.ne_of_lt isThere)]
  | cons first rest inductionHypothesis =>
      rw [collectLines]
      split
      · rw [inductionHypothesis (by simp; omega), Array.getElem?_push,
          if_neg (Nat.ne_of_lt isThere)]
      · exact inductionHypothesis isThere (first :: reversed)

/--
The open line holds what is read of it, up to the last character that is no
carriage return.
-/
theorem collectLines_open
    {last : Char}
    (isKept : last ≠ '\r')
    (finished : Array Line)
    (more kept text : List Char) :
    ∃ line,
      (collectLines finished (more ++ last :: kept) text)[finished.size]? =
          some line ∧
        line.number = finished.size + 1 ∧
        (last :: kept).reverse <+: line.text.toList := by
  induction text generalizing more with
  | nil =>
      refine
        ⟨Line.close (finished.size + 1) (more ++ last :: kept), ?_, rfl, ?_⟩
      · simp [collectLines]
      · exact Line.close_keeps isKept _ more kept
  | cons first rest inductionHypothesis =>
      rw [collectLines]
      split
      · refine
          ⟨Line.close (finished.size + 1) (more ++ last :: kept), ?_, rfl, ?_⟩
        · rw [collectLines_keeps (by simp)]
          simp
        · exact Line.close_keeps isKept _ more kept
      · exact inductionHypothesis (first :: more)

/-- The place of the next character, when so much of a file has been cut. -/
def placeBehind
    (finished : Array Line)
    (reversed : List Char) :
    Position where
  line := finished.size + 1
  column := reversed.length + 1

theorem placeBehind_next
    (finished : Array Line)
    (reversed : List Char)
    (character : Char) :
    (placeBehind finished reversed).next character =
      if character = '\n' then
        placeBehind
          (finished.push (Line.close (finished.size + 1) reversed)) []
      else
        placeBehind finished (character :: reversed) := by
  unfold Position.next
  split <;> simp [placeBehind]

/-- Any character that is left makes a further line. -/
theorem size_lt_size_collectLines
    (finished : Array Line)
    {reversed text : List Char}
    (hasMore : reversed ≠ [] ∨ text ≠ []) :
    finished.size < (collectLines finished reversed text).size := by
  induction text generalizing reversed with
  | nil =>
      simp [collectLines, hasMore.resolve_right (by simp)]
  | cons first rest inductionHypothesis =>
      rw [collectLines]
      split
      · have isNext :
            finished.size <
              (finished.push
                (Line.close (finished.size + 1) reversed)).size := by
          simp
        have stays := collectLines_keeps isNext [] rest
        rw [Array.getElem?_eq_getElem isNext] at stays
        exact (Array.getElem?_eq_some_iff.mp stays).1
      · exact inductionHypothesis (.inl (by simp))

/-- The lines reach to every character of the text. -/
theorem line_le_size_collectLines
    (finished : Array Line)
    (reversed : List Char)
    {text : List Char}
    {offset : Nat}
    (inText : offset < text.length) :
    ((placeBehind finished reversed).advance (text.take offset)).line ≤
      (collectLines finished reversed text).size := by
  induction text generalizing finished reversed offset with
  | nil =>
      simp at inText
  | cons first rest inductionHypothesis =>
      cases offset with
      | zero =>
          exact size_lt_size_collectLines finished (.inr (by simp))
      | succ offset =>
          have inRest : offset < rest.length := by
            simpa using inText
          rw [collectLines]
          simp only [List.take_succ_cons, Position.advance, List.foldl_cons,
            placeBehind_next]
          split
          · exact inductionHypothesis _ [] inRest
          · exact inductionHypothesis finished (first :: reversed) inRest

/-- Each character that is no part of a line break is on its line. -/
theorem collectLines_character
    (finished : Array Line)
    (reversed : List Char)
    {text : List Char}
    {offset : Nat}
    {character : Char}
    (isThere : text[offset]? = some character)
    (noBreak : character ≠ '\n')
    (noReturn : character ≠ '\r') :
    let place := (placeBehind finished reversed).advance (text.take offset)
    ∃ line,
      (collectLines finished reversed text)[place.line - 1]? = some line ∧
        line.number = place.line ∧
        line.text.toList[place.column - 1]? = some character := by
  induction text generalizing finished reversed offset with
  | nil =>
      simp at isThere
  | cons first rest inductionHypothesis =>
      cases offset with
      | zero =>
          have isFirst : first = character := by
            simpa using isThere
          subst isFirst
          obtain ⟨line, found, numbered, holds⟩ :=
            collectLines_open noReturn finished [] reversed rest
          refine ⟨line, ?_, numbered, ?_⟩
          · rw [collectLines, if_neg noBreak]
            exact found
          · obtain ⟨rest, whole⟩ := holds
            simp [placeBehind, Position.advance, ← whole]
      | succ offset =>
          have inRest : rest[offset]? = some character := by
            simpa using isThere
          rw [collectLines]
          simp only [List.take_succ_cons, Position.advance, List.foldl_cons,
            placeBehind_next]
          split
          · exact inductionHypothesis _ [] inRest
          · exact inductionHypothesis finished (first :: reversed) inRest

section SplitLines

variable {text : String} {offset : Nat}

/-- No character of a text is behind its last line. -/
theorem line_le_size_splitLines
    (inText : offset < text.toList.length) :
    (Position.ofOffset text.toList offset).line ≤ (splitLines text).size := by
  rw [Position.ofOffset, ← Position.advance_origin]
  exact line_le_size_collectLines #[] [] inText

/-- The line of a character holds it at its column, if it breaks no line. -/
theorem splitLines_character
    {character : Char}
    (isThere : text.toList[offset]? = some character)
    (noBreak : character ≠ '\n')
    (noReturn : character ≠ '\r') :
    let place := Position.ofOffset text.toList offset
    ∃ line,
      (splitLines text)[place.line - 1]? = some line ∧
        line.number = place.line ∧
        line.text.toList[place.column - 1]? = some character := by
  rw [Position.ofOffset, ← Position.advance_origin]
  exact collectLines_character #[] [] isThere noBreak noReturn

end SplitLines

end HouseStyle

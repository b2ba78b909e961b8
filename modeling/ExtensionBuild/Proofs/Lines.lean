import ExtensionBuild.Proofs.SourcePath
import ExtensionBuild.Text.Blank
import Mathlib.Data.List.Flatten

/-! The lines of a text. A text that was written line by line has the lines of what was written, in
order, and its first line is what stands in front of its first line feed. -/
namespace ExtensionBuild.Text

/-- A line without the carriage return that belongs to its ending. -/
def withoutReturn (line : List Char) : List Char :=
  if line.getLast? = some '\r' then line.dropLast else line

/-- What stands in front of each line feed, and what stands behind the last one unless that is
nothing. -/
def lines (s : List Char) : List (List Char) :=
  let parts := pieces (· == '\n') s
  parts.dropLast.map withoutReturn ++ parts.getLast?.toList.filter (! ·.isEmpty)

def firstLine (s : String) : String := String.ofList ((lines s.toList).headD [])

def lastLine (s : String) : Option String := (lines s.toList).getLast?.map String.ofList

/-- The text of lines that are written one after the other. -/
def written (parts : List String) : String := String.join (parts.map (· ++ "\n"))

theorem withoutReturn_of_not_mem {line : List Char} (bare : '\r' ∉ line) :
    withoutReturn line = line :=
  if_neg fun ended => bare (List.mem_of_getLast? ended)

theorem pieces_of_no_feed {s : List Char} (unbroken : '\n' ∉ s) :
    pieces (· == '\n') s = [s] :=
  pieces_of_forall_not _ s fun c member => by simpa using ne_of_mem_of_not_mem member unbroken

theorem lines_of_no_feed {s : List Char} (unbroken : '\n' ∉ s) :
    lines s = if s.isEmpty then [] else [s] := by
  rw [lines, pieces_of_no_feed unbroken]
  cases s <;> rfl

theorem lines_append (first rest : List Char) :
    lines (first ++ '\n' :: rest) =
      (pieces (· == '\n') first).map withoutReturn ++ lines rest := by
  have more : pieces (· == '\n') rest ≠ [] := pieces_ne_nil _ _
  rw [lines, pieces_append_cons _ first rest rfl, List.dropLast_append_of_ne_nil more,
    List.getLast?_append_of_ne_nil _ more, List.map_append, List.append_assoc]
  rfl

theorem lines_written (parts : List String) :
    lines (written parts).toList =
      parts.flatMap fun part => (pieces (· == '\n') part.toList).map withoutReturn := by
  induction parts with
  | nil => rfl
  | cons part rest ih =>
    have text : (written (part :: rest)).toList = part.toList ++ '\n' :: (written rest).toList := by
      simp [written]
    rw [text, lines_append, ih, List.flatMap_cons]

theorem lines_written_sublist {short long : List String} (kept : short.Sublist long) :
    (lines (written short).toList).Sublist (lines (written long).toList) := by
  rw [lines_written, lines_written]
  exact kept.flatMap _

theorem lastLine_written (parts : List String) {last : String} (unbroken : '\n' ∉ last.toList) :
    lastLine (written (parts ++ [last])) = some (String.ofList (withoutReturn last.toList)) := by
  rw [lastLine, lines_written, List.flatMap_append]
  simp [pieces_of_no_feed unbroken]

/-- The first line is what stands in front of the first line feed, without its carriage return. -/
theorem toList_firstLine (s : String) :
    let front := s.toList.takeWhile (· != '\n')
    (firstLine s).toList = if '\n' ∈ s.toList then withoutReturn front else front := by
  intro front
  rw [firstLine, String.toList_ofList]
  split
  · rename_i feed
    obtain ⟨first, rest, text, unbroken⟩ := List.eq_append_cons_of_mem feed
    have whole : front = first := by
      simp only [front, text]
      rw [List.takeWhile_append_of_pos fun c member => by
        simpa using ne_of_mem_of_not_mem member unbroken]
      simp
    rw [text, lines_append, pieces_of_no_feed unbroken, whole]
    rfl
  · rename_i feed
    have whole : front = s.toList := by
      apply List.takeWhile_eq_self_iff.mpr
      intro c member
      simpa using ne_of_mem_of_not_mem member feed
    rw [lines_of_no_feed feed, whole]
    cases s.toList <;> rfl

end ExtensionBuild.Text

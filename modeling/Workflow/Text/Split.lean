/-!
# Splitting text at a separator

Lists of stages, tokens and bindings are written with a separator character between the parts, and
there is no way to write the separator inside a part.  `splitAt` takes a text apart at every
separator and `joinWith` puts it together again; `cut` takes it apart at the first one only.
-/

namespace Workflow.Text

/-- The parts of a text between the separators; a text without one is a single part. -/
def splitAt (separator : Char) : List Char → List (List Char)
  | [] => [[]]
  | c :: rest =>
    if c = separator then [] :: splitAt separator rest
    else match splitAt separator rest with
      | part :: parts => (c :: part) :: parts
      | [] => [[c]]

/-- The parts with the separator between each two of them. -/
def joinWith (separator : List Char) : List (List Char) → List Char
  | [] => []
  | [part] => part
  | part :: parts => part ++ separator ++ joinWith separator parts

/-- The text before and after the first separator, if there is one. -/
def cut (separator : Char) : List Char → Option (List Char × List Char)
  | [] => none
  | c :: rest =>
    if c = separator then some ([], rest)
    else (cut separator rest).map fun (before, after) => (c :: before, after)

/-- The text before and after the last separator, if there is one. -/
def cutLast (separator : Char) (text : List Char) : Option (List Char × List Char) :=
  (cut separator text.reverse).map fun (after, before) => (before.reverse, after.reverse)

theorem splitAt_ne_nil (separator : Char) (text : List Char) : splitAt separator text ≠ [] := by
  induction text with
  | nil => simp [splitAt]
  | cons c rest ih =>
    by_cases isSeparator : c = separator
    · simp [splitAt, isSeparator]
    · cases parts : splitAt separator rest <;> simp [splitAt, isSeparator, parts]

/-- Splitting loses nothing but where the parts met. -/
theorem joinWith_splitAt (separator : Char) (text : List Char) :
    joinWith [separator] (splitAt separator text) = text := by
  induction text with
  | nil => rfl
  | cons c rest ih =>
    have nonempty := splitAt_ne_nil separator rest
    by_cases isSeparator : c = separator
    · subst isSeparator
      cases parts : splitAt c rest with
      | nil => exact absurd parts nonempty
      | cons part others => simpa [splitAt, parts, joinWith] using ih
    · cases parts : splitAt separator rest with
      | nil => exact absurd parts nonempty
      | cons part others =>
        cases others with
        | nil => simpa [splitAt, isSeparator, parts, joinWith] using ih
        | cons next others =>
          simpa [splitAt, isSeparator, parts, joinWith] using ih

end Workflow.Text

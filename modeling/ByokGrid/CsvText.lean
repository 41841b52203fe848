import Mathlib.Data.List.Basic

/-! Comma-separated records as RFC 4180 has them. Records whose fields are all quoted are read back,
whatever characters they hold; a record of no fields is read as one empty field. -/

namespace ByokGrid

inductive CsvMode where
  | start
  | plain
  | quoted
  | closed
  deriving Repr, DecidableEq

/-- The records of a text, from the text of the field so far and the fields before it. The last record may or
may not end with a line break. -/
def readCsvFrom : CsvMode → List Char → List (List Char) → List Char → Option (List (List (List Char)))
  | .quoted, field, record, '"' :: cs => readCsvFrom .closed field record cs
  | .quoted, field, record, c :: cs => readCsvFrom .quoted (field ++ [c]) record cs
  | .quoted, _, _, [] => none
  | .start, _, [], [] => some []
  | _, field, record, [] => some [record ++ [field]]
  | _, field, record, ',' :: cs => readCsvFrom .start [] (record ++ [field]) cs
  | _, field, record, '\r' :: '\n' :: cs => (readCsvFrom .start [] [] cs).map fun records => (record ++ [field]) :: records
  | .closed, field, record, '"' :: cs => readCsvFrom .quoted (field ++ ['"']) record cs
  | .closed, _, _, _ => none
  | .start, field, record, '"' :: cs => readCsvFrom .quoted field record cs
  | _, field, record, c :: cs =>
    if c = '"' ∨ c = '\r' ∨ c = '\n' then none else readCsvFrom .plain (field ++ [c]) record cs

def readCsv (text : List Char) : Option (List (List (List Char))) :=
  readCsvFrom .start [] [] text

def doubleQuotes (text : List Char) : List Char :=
  text.flatMap fun c => if c = '"' then ['"', '"'] else [c]

def quoteField (field : List Char) : List Char :=
  '"' :: doubleQuotes field ++ ['"']

def quotedLine (fields : List (List Char)) : List Char :=
  List.intercalate [','] (fields.map quoteField) ++ ['\r', '\n']

theorem readCsvFrom_doubleQuotes (text : List Char) (field rest : List Char) (record : List (List Char)) :
    readCsvFrom .quoted field record (doubleQuotes text ++ '"' :: rest) = readCsvFrom .closed (field ++ text) record rest := by
  induction text generalizing field with
  | nil => rw [doubleQuotes, List.flatMap_nil, List.nil_append, List.append_nil, readCsvFrom]
  | cons c text ih =>
    have hnext := ih (field ++ [c])
    rw [List.append_assoc, List.singleton_append] at hnext
    by_cases hquote : c = '"'
    · subst hquote
      rw [← hnext]
      simp only [doubleQuotes, List.flatMap_cons, if_true, List.cons_append, List.nil_append, readCsvFrom]
    · rw [← hnext]
      simp only [doubleQuotes, List.flatMap_cons, if_neg hquote, List.cons_append, List.nil_append]
      rw [readCsvFrom]
      exact fun h => hquote h

theorem readCsvFrom_quoteField (field rest : List Char) (record : List (List Char)) :
    readCsvFrom .start [] record (quoteField field ++ rest) = readCsvFrom .closed field record rest := by
  have hquoted := readCsvFrom_doubleQuotes field [] rest record
  rw [List.nil_append] at hquoted
  have htext : quoteField field ++ rest = '"' :: (doubleQuotes field ++ '"' :: rest) := by
    rw [quoteField, List.cons_append, List.cons_append, List.append_assoc, List.singleton_append]
  rw [← hquoted, htext, readCsvFrom]

def readBack (fields : List (List Char)) : List (List Char) :=
  if fields = [] then [[]] else fields

theorem readCsvFrom_fields (field : List Char) (fields record : List (List Char)) (rest : List Char) :
    readCsvFrom .start [] record (quotedLine (field :: fields) ++ rest) =
      (readCsv rest).map fun records => (record ++ field :: fields) :: records := by
  induction fields generalizing field record with
  | nil =>
    rw [quotedLine, List.map_singleton, List.intercalate_singleton, List.append_assoc, readCsvFrom_quoteField]
    rfl
  | cons next fields ih =>
    have hrest := ih next (record ++ [field])
    rw [List.append_assoc, List.singleton_append] at hrest
    have htext : quotedLine (field :: next :: fields) ++ rest = quoteField field ++ ',' :: (quotedLine (next :: fields) ++ rest) := by
      simp only [quotedLine, List.map_cons, List.intercalate_cons_cons, List.append_assoc, List.cons_append, List.nil_append]
    rw [← hrest, htext, readCsvFrom_quoteField, readCsvFrom]
    exact CsvMode.noConfusion

theorem readCsv_quotedLine (fields : List (List Char)) (rest : List Char) :
    readCsv (quotedLine fields ++ rest) = (readCsv rest).map fun records => readBack fields :: records := by
  cases fields with
  | nil => rfl
  | cons field fields => exact readCsvFrom_fields field fields [] rest

theorem readCsv_quotedLines (lines : List (List (List Char))) :
    readCsv (lines.flatMap quotedLine) = some (lines.map readBack) := by
  induction lines with
  | nil => rfl
  | cons fields lines ih => rw [List.flatMap_cons, readCsv_quotedLine, ih, Option.map_some, List.map_cons]

end ByokGrid

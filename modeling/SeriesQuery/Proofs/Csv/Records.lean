import Mathlib.Data.List.Basic
import SeriesQuery.Csv.Reader
import SeriesQuery.Csv.Writer

/-!
Records that are written are read back, whatever characters their fields have. The first field of
each is left empty, so that no record is taken for a comment.
-/

set_option autoImplicit false

namespace SeriesQuery.Csv

def written (records : List Record) : String := String.join (records.map recordWritten)

/-- The first field is empty, and others follow it. -/
def Marked (record : Record) : Prop := ∃ field rest, record = "" :: field :: rest

theorem recordsFrom_cons (scan : Scan) (c : Char) (rest : List Char) :
    recordsFrom scan (c :: rest) = (step scan c).1.toList ++ recordsFrom (step scan c).2 rest := by
  rw [recordsFrom]
  split
  · next same => rw [same]; rfl
  · next same => rw [same]; rfl

/-! ## Fields -/

section
variable (fields : List String)

theorem recordsFrom_plain {text : List Char} (unquoted : ∀ c ∈ text, needsQuotes c = false)
    (field rest : List Char) :
    recordsFrom (.inside fields .plain field) (text ++ rest) =
      recordsFrom (.inside fields .plain (text.reverse ++ field)) rest := by
  induction text generalizing field with
  | nil => rfl
  | cons c others ih =>
    have ⟨free, unquoted⟩ := List.forall_mem_cons.1 unquoted
    have stays : outside fields field c = (none, .inside fields .plain (c :: field)) := by
      simp only [needsQuotes, Bool.or_eq_false_iff, beq_eq_false_iff_ne] at free
      simp [outside, endsRecord, free]
    rw [List.cons_append, recordsFrom_cons, step, within, stays, ih unquoted, List.reverse_cons,
      List.append_assoc]
    rfl

theorem recordsFrom_quoted (text field rest : List Char) :
    recordsFrom (.inside fields .quoted field) (text.flatMap doubleQuote ++ '"' :: rest) =
      recordsFrom (.inside fields .afterQuote (text.reverse ++ field)) rest := by
  induction text generalizing field with
  | nil =>
    rw [List.flatMap_nil, List.nil_append, recordsFrom_cons]
    rfl
  | cons c others ih =>
    rw [List.flatMap_cons, List.append_assoc, List.reverse_cons, List.append_assoc,
      List.singleton_append, ← ih]
    by_cases quote : c = '"'
    · rw [quote, doubleQuote, if_pos rfl, List.cons_append, recordsFrom_cons, List.cons_append,
        recordsFrom_cons]
      rfl
    · rw [doubleQuote, if_neg quote, List.singleton_append, recordsFrom_cons, step, within,
        if_neg quote]
      rfl

theorem recordsFrom_field (field : String) {c : Char} (noQuote : c ≠ '"') (rest : List Char) :
    recordsFrom (.inside fields .start []) ((fieldWritten field).toList ++ c :: rest) =
      (outside fields field.toList.reverse c).1.toList ++
        recordsFrom (outside fields field.toList.reverse c).2 rest := by
  unfold fieldWritten
  -- In quotes, the field ends with the closing one; without them, no character of it ends it.
  split
  · rw [String.toList_ofList, List.append_assoc, List.cons_append, recordsFrom_cons,
      List.singleton_append]
    refine (recordsFrom_quoted fields field.toList [] (c :: rest)).trans ?_
    rw [recordsFrom_cons, step, within, if_neg noQuote, List.append_nil]
  · next unquoted =>
    have unquoted : ∀ d ∈ field.toList, needsQuotes d = false := by simpa using unquoted
    cases same : field.toList with
    | nil =>
      rw [List.nil_append, recordsFrom_cons, step, within, if_neg noQuote]
      rfl
    | cons d others =>
      rw [same] at unquoted
      have ⟨free, unquoted⟩ := List.forall_mem_cons.1 unquoted
      have starts : step (.inside fields .start []) d = (none, .inside fields .plain [d]) := by
        simp only [needsQuotes, Bool.or_eq_false_iff, beq_eq_false_iff_ne] at free
        simp [step, within, outside, endsRecord, free]
      rw [List.cons_append, recordsFrom_cons, starts]
      refine (recordsFrom_plain fields unquoted [d] (c :: rest)).trans ?_
      rw [recordsFrom_cons, List.reverse_cons]
      rfl

theorem recordsFrom_comma (field : String) (rest : List Char) :
    recordsFrom (.inside fields .start []) ((fieldWritten field).toList ++ ',' :: rest) =
      recordsFrom (.inside (field :: fields) .start []) rest := by
  have ends : outside fields field.toList.reverse ',' =
      (none, .inside (field :: fields) .start []) := by
    rw [outside, if_pos rfl, fieldText, List.reverse_reverse, String.ofList_toList]
  rw [recordsFrom_field fields field (by decide), ends]
  rfl

theorem recordsFrom_newline (field : String) (rest : List Char) :
    recordsFrom (.inside fields .start []) ((fieldWritten field).toList ++ '\n' :: rest) =
      (field :: fields).reverse :: recordsFrom .between rest := by
  have ends : outside fields field.toList.reverse '\n' =
      (some (field :: fields).reverse, .between) := by
    rw [outside, if_neg (by decide), if_pos (by decide), recordOf, fieldText, List.reverse_reverse,
      String.ofList_toList]
  rw [recordsFrom_field fields field (by decide), ends]
  rfl

end

/-! ## Records -/

theorem recordsFrom_fields (fields : List String) (first : String) (others : List String)
    (rest : List Char) :
    recordsFrom (.inside fields .start [])
        ((recordWritten (first :: others)).toList ++ rest) =
      (fields.reverse ++ first :: others) :: recordsFrom .between rest := by
  induction others generalizing fields first with
  | nil =>
    have ended : (recordWritten [first]).toList ++ rest =
        (fieldWritten first).toList ++ '\n' :: rest := by
      simp [recordWritten]
    rw [ended, recordsFrom_newline, List.reverse_cons]
  | cons second others ih =>
    have split : (recordWritten (first :: second :: others)).toList ++ rest =
        (fieldWritten first).toList ++ ',' ::
          ((recordWritten (second :: others)).toList ++ rest) := by
      simp [recordWritten, String.intercalate_cons_cons]
    rw [split, recordsFrom_comma, ih, List.reverse_cons, List.append_assoc, List.singleton_append]

theorem toList_recordWritten (second : String) (rest : List String) :
    (recordWritten ("" :: second :: rest)).toList =
      ',' :: (recordWritten (second :: rest)).toList := by
  simp [recordWritten, String.intercalate_cons_cons, fieldWritten]

theorem recordsFrom_written {list : List Record} (marked : ∀ record ∈ list, Marked record) :
    recordsFrom .between (written list).toList = list := by
  induction list with
  | nil => rfl
  | cons record others ih =>
    have ⟨⟨second, rest, same⟩, marked⟩ := List.forall_mem_cons.1 marked
    rw [written, List.map_cons, String.join_cons, String.toList_append, same,
      toList_recordWritten, List.cons_append, recordsFrom_cons]
    refine (recordsFrom_fields [""] second rest _).trans ?_
    rw [← written, ih marked]
    rfl

theorem records_written {list : List Record} (marked : ∀ record ∈ list, Marked record) :
    records (written list) = list := by
  have read := recordsFrom_written marked
  cases list with
  | nil => rfl
  | cons record others =>
    obtain ⟨second, rest, rfl⟩ := marked record List.mem_cons_self
    rw [written, List.map_cons, String.join_cons, String.toList_append, toList_recordWritten]
      at read
    rw [records, written, List.map_cons, String.join_cons, String.toList_append,
      toList_recordWritten]
    exact read

end SeriesQuery.Csv

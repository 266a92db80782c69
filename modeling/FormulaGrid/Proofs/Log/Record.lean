import FormulaGrid.Log.Sink
import FormulaGrid.Proofs.Json.Keys
import FormulaGrid.Proofs.Json.Plain
import FormulaGrid.Proofs.Log.Framing

/-! The record of an entry: what reading a log gives back for its line. The line is written unless
the context nests too deeply, it holds no other end of a line than its own, and a filter sees in the
record what it asks the entry for. -/
namespace FormulaGrid.Log

open FormulaGrid.Data FormulaGrid.Json FormulaGrid.Text

variable {entry : Entry}

namespace Entry

/-- The data of an entry, with the keys of every mapping in order. -/
def record (entry : Entry) : Data :=
  sortKeys entry.toData

def text (entry : Entry) : List Char :=
  chars entry.record

def frame (entry : Entry) : List UInt8 :=
  encodeUtf8 (String.ofList (entry.text ++ ['\n']))

end Entry

theorem distinct_toEntries (entry : Entry) : (entry.toEntries.map Prod.fst).Nodup := by
  have keys : entry.toEntries.map Prod.fst = ["schema_version", "ts", "level", "event_type",
    "context", "message", "error_code"] := rfl
  rw [keys]
  decide

/-- That the record of an entry can be read from its line. -/
structure Entry.Readable (entry : Entry) : Prop where
  json : IsWritten entry.toData
  shallow : entry.toData.height ≤ maxNesting

theorem Entry.Readable.distinct (readable : entry.Readable) :
    (entry.event.context.map Prod.fst).Nodup := by
  cases readable.json with
  | mapping _ all =>
    cases all ("context", .mapping entry.event.context) (by simp [Entry.toEntries]) with
    | mapping distinct _ => exact distinct

theorem isWritten_toData (version : entry.schemaVersion.natAbs < 10 ^ maxNumeralDigits)
    (context : IsWritten (.mapping entry.event.context)) : IsWritten entry.toData := by
  refine .mapping (distinct_toEntries entry) ?_
  have code : IsWritten ((entry.event.errorCode.map Data.text).getD .null) := by
    cases entry.event.errorCode with
    | none => exact .null
    | some code => exact .text code
  simp [Entry.toEntries, IsWritten.integer version, IsWritten.text, context, code]

theorem height_toData_le (shallow : heightOfEntries entry.event.context ≤ maxHeight) :
    entry.toData.height ≤ maxNesting := by
  have least : 1 ≤ maxHeight + 1 := Nat.le_add_left 1 maxHeight
  have code : ((entry.event.errorCode.map Data.text).getD .null).height ≤ maxHeight + 1 := by
    cases entry.event.errorCode <;> exact least
  have fields : heightOfEntries entry.toEntries ≤ maxHeight + 1 := by
    refine heightOfEntries_le ?_
    simp [Entry.toEntries, height, least, shallow, code]
  exact (Nat.succ_le_succ fields).trans (by decide)

section Writing

theorem line_of_dump {data : Data} (dumped : entry.dump = .ok data) :
    entry.line =
      if data.isWritable then .ok (Json.line data ++ "\n") else .error .numeralTooLong := by
  rw [Entry.line, dumped]
  rfl

theorem line_eq_ok (version : entry.schemaVersion.natAbs < 10 ^ maxNumeralDigits)
    (context : IsWritten (.mapping entry.event.context))
    (shallow : heightOfEntries entry.event.context ≤ maxHeight) :
    entry.line = .ok (Json.line entry.toData ++ "\n") := by
  rw [line_of_dump (if_pos shallow), if_pos (isWritten_toData version context).writable]

theorem of_line_eq_ok {line : String} (written : entry.line = .ok line)
    (context : IsWritten (.mapping entry.event.context)) :
    entry.Readable ∧ encodeUtf8 line = entry.frame := by
  have shallow : heightOfEntries entry.event.context ≤ maxHeight := by
    by_contra deep
    have refused : entry.line = .error .nestedTooDeeply := by
      rw [Entry.line, Entry.dump, if_neg deep]
      rfl
    rw [refused] at written
    cases written
  rw [line_of_dump (if_pos shallow)] at written
  split at written
  next writable =>
    have version : isWritable (.integer entry.schemaVersion) :=
      isWritable_mapping.1 writable ("schema_version", _) List.mem_cons_self
    refine ⟨⟨isWritten_toData (isWritable_integer.1 version) context, height_toData_le shallow⟩, ?_⟩
    have same : line = String.ofList (entry.text ++ ['\n']) := by
      rw [← Except.ok.inj written, Json.line, String.ofList_append]
      rfl
    rw [same, Entry.frame]
  next => cases written

end Writing

section Reading

theorem trim_cons {c : Char} (cs : List Char) (shown : isBlank c = false) :
    (trim (c :: cs)).isEmpty = false := by
  have kept : (c :: cs).dropWhile isBlank = c :: cs := by simp [shown]
  have ends : ¬(c :: cs).reverse.dropWhile isBlank = [] := by
    rw [List.dropWhile_eq_nil_iff]
    exact fun all => Bool.eq_false_iff.1 shown (all c (by simp))
  simpa [trim, trimWhere, kept] using ends

/-- The line of a readable entry is read as its record. -/
theorem recordOf?_text (readable : entry.Readable) :
    recordOf? entry.text = .ok (some entry.record) := by
  have read : Json.read entry.text = .ok entry.record :=
    read_chars (isWritten_sortKeys readable.json)
      ((height_sortKeys_le readable.json).trans readable.shallow)
  have filled : (trim entry.text).isEmpty = false := trim_cons _ rfl
  rw [recordOf?, filled, read]
  rfl

theorem isLineEnd_plain {c : Char} (plain : isPlain c) : isLineEnd c = false := by
  have range := isPlain_iff.1 plain
  simp only [isLineEnd, Bool.or_eq_false_iff, Bool.and_eq_false_iff, decide_eq_false_iff_not,
    beq_eq_false_iff_ne]
  omega

theorem plain_text (readable : entry.Readable) : ∀ c ∈ entry.text, isPlain c :=
  List.all_eq_true.1 (plain_chars (isWritten_sortKeys readable.json))

theorem ascii_text (readable : entry.Readable) :
    ∀ c ∈ entry.text ++ ['\n'], c.toNat < 0x80 := by
  refine List.forall_mem_append.2 ⟨fun c member => ?_, List.forall_mem_singleton.2 (by decide)⟩
  have range := isPlain_iff.1 (plain_text readable c member)
  omega

theorem frame_eq (readable : entry.Readable) :
    entry.frame = (entry.text ++ ['\n']).map asciiByte :=
  encodeUtf8_ascii (ascii_text readable)

theorem isFrame_frame (readable : entry.Readable) : IsFrame entry.frame := by
  refine ⟨entry.text.map asciiByte, fun member => ?_, ?_⟩
  · obtain ⟨c, inside, same⟩ := List.mem_map.1 member
    have range := isPlain_iff.1 (plain_text readable c inside)
    have byte := toNat_asciiByte (show c.toNat < 0x80 by omega)
    rw [same] at byte
    have : (10 : UInt8).toNat = 10 := rfl
    omega
  · rw [frame_eq readable, List.map_append]
    rfl

end Reading

end FormulaGrid.Log

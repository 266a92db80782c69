import FormulaGrid.Proofs.Log.Record

/-! A log read back: whatever was written, reading gives the records of the newest entries, those
that a filter asks for, and no other. -/
namespace FormulaGrid.Log

open FormulaGrid.Data FormulaGrid.Json FormulaGrid.Text

/-- Whether an entry is asked for: a level, a type or a cell that is given has to be its own. -/
def Filter.wants (filter : Filter) (entry : Entry) : Bool :=
  (filter.level.filter (· != "")).all (entry.event.level.name == ·) &&
    (filter.eventType.filter (· != "")).all (entry.event.type.name == ·) &&
    (filter.cell.filter (· != "")).all (isText · (lookup "cell" entry.event.context))

section Filtering

variable {entry : Entry} {filter : Filter} {key : String} {wanted : Option String}

theorem isText_sortKeys (wanted : String) (found : Option Data) :
    isText wanted (found.map sortKeys) = isText wanted found := by
  cases found with
  | none => rfl
  | some data => cases data <;> rfl

theorem field?_record (entry : Entry) (key : String) :
    field? entry.record key = .ok ((lookup key entry.toEntries).map sortKeys) := by
  rw [Entry.record, Entry.toData, sortKeys, field?, lookup_sorted (distinct_toEntries entry)]

theorem matchesField_record {value : String}
    (found : lookup key entry.toEntries = some (.text value)) :
    matchesField key wanted entry.record = .ok ((wanted.filter (· != "")).all (value == ·)) := by
  unfold matchesField
  split
  next none => rw [none]; rfl
  next some => rw [some, field?_record, found]; rfl

theorem matchesCell_record (distinct : (entry.event.context.map Prod.fst).Nodup) :
    matchesCell wanted entry.record =
      .ok ((wanted.filter (· != "")).all (isText · (lookup "cell" entry.event.context))) := by
  unfold matchesCell
  have context : lookup "context" entry.toEntries = some (.mapping entry.event.context) := rfl
  split
  next none => rw [none]; rfl
  next some =>
    rw [some, field?_record, context]
    change Except.ok (isText _ (lookup "cell" (sortEntries (sortValues entry.event.context)))) = _
    rw [lookup_sorted distinct, isText_sortKeys]
    rfl

/-- A filter sees in a record what it asks the entry for. -/
theorem accepts_record (distinct : (entry.event.context.map Prod.fst).Nodup) :
    filter.accepts entry.record = .ok (filter.wants entry) := by
  have level : lookup "level" entry.toEntries = some (.text entry.event.level.name) := rfl
  have type : lookup "event_type" entry.toEntries = some (.text entry.event.type.name) := rfl
  unfold Filter.accepts Filter.wants
  rw [matchesField_record level, matchesField_record type, matchesCell_record distinct]
  cases (filter.level.filter (· != "")).all (entry.event.level.name == ·) <;>
    cases (filter.eventType.filter (· != "")).all (entry.event.type.name == ·) <;> rfl

theorem select_records {entries : List Entry} (readable : ∀ entry ∈ entries, entry.Readable)
    (count : Nat) :
    select filter count (entries.map Entry.record) =
      .ok (((entries.filter filter.wants).take count).map Entry.record) := by
  induction entries generalizing count with
  | nil => cases count <;> rfl
  | cons entry entries ih =>
    obtain ⟨first, others⟩ := List.forall_mem_cons.1 readable
    cases count with
    | zero => rfl
    | succ count =>
      rw [List.map_cons, select, accepts_record first.distinct]
      cases wanted : filter.wants entry with
      | false =>
        rw [List.filter_cons_of_neg (by simp [wanted])]
        exact ih others (count + 1)
      | true =>
        rw [List.filter_cons_of_pos wanted, List.take_succ_cons, List.map_cons]
        change Except.bind (select filter count (entries.map Entry.record)) _ = _
        rw [ih others count]
        rfl

end Filtering

section Reading

variable {entries : List Entry} {tailBytes : Int}

theorem decodeUtf8_frames (readable : ∀ entry ∈ entries, entry.Readable) :
    decodeUtf8 (entries.flatMap Entry.frame) =
      (entries.map Entry.text).flatMap (· ++ ['\n']) := by
  have ascii : ∀ c ∈ (entries.map Entry.text).flatMap (· ++ ['\n']), c.toNat < 0x80 := by
    intro c member
    obtain ⟨text, line, inside⟩ := List.mem_flatMap.1 member
    obtain ⟨entry, among, rfl⟩ := List.mem_map.1 line
    exact ascii_text (readable entry among) c inside
  have bytes : entries.flatMap Entry.frame =
      ((entries.map Entry.text).flatMap (· ++ ['\n'])).map asciiByte := by
    rw [List.map_flatMap, List.flatMap_map]
    exact List.flatMap_congr fun entry member => frame_eq (readable entry member)
  rw [bytes, decodeUtf8_ascii ascii]

theorem mapM_recordOf? (readable : ∀ entry ∈ entries, entry.Readable) :
    (entries.map Entry.text).mapM recordOf? = .ok (entries.map fun entry => some entry.record) := by
  induction entries with
  | nil => rfl
  | cons entry entries ih =>
    obtain ⟨first, others⟩ := List.forall_mem_cons.1 readable
    rw [List.map_cons, List.mapM_cons, recordOf?_text first]
    change Except.bind ((entries.map Entry.text).mapM recordOf?) _ = _
    rw [ih others]
    rfl

theorem records_of_tail {bytes : List UInt8} (readable : ∀ entry ∈ entries, entry.Readable)
    (cut : tail tailBytes bytes = entries.flatMap Entry.frame) :
    records tailBytes bytes = .ok (entries.map Entry.record) := by
  have plain : ∀ line ∈ entries.map Entry.text, ∀ c ∈ line, isLineEnd c = false :=
    List.forall_mem_map.2 fun entry member c inside =>
      isLineEnd_plain (plain_text (readable entry member) c inside)
  rw [records, cut, decodeUtf8_frames readable, lines_framed plain, mapM_recordOf? readable]
  change Except.ok ((entries.map fun entry => some entry.record).filterMap id) = _
  rw [List.filterMap_map]
  exact congrArg Except.ok (congrFun List.filterMap_eq_map' entries)

/-- The records of a log are those of its last lines: of all where they fit into what is looked at,
and otherwise of those that take fewer bytes. -/
theorem records_frames_iff (readable : ∀ entry ∈ entries, entry.Readable)
    (positive : 0 < tailBytes) :
    ∃ m ≤ entries.length,
      records tailBytes (entries.flatMap Entry.frame) = .ok ((entries.drop m).map Entry.record) ∧
      ∀ j ≤ entries.length, m ≤ j ↔ ((entries.flatMap Entry.frame).length : Int) ≤ tailBytes ∨
        (((entries.drop j).flatMap Entry.frame).length : Int) < tailBytes := by
  have each : ∀ frame ∈ entries.map Entry.frame, IsFrame frame :=
    List.forall_mem_map.2 fun entry member => isFrame_frame (readable entry member)
  obtain ⟨m, most, cut, exact⟩ := tail_frames each positive
  simp only [List.length_map, ← List.map_drop, ← List.flatMap_def] at most cut exact
  have kept : ∀ entry ∈ entries.drop m, entry.Readable :=
    fun entry member => readable entry (List.mem_of_mem_drop member)
  exact ⟨m, most, records_of_tail kept cut, exact⟩

theorem records_frames (readable : ∀ entry ∈ entries, entry.Readable) (positive : 0 < tailBytes) :
    ∃ m ≤ entries.length,
      records tailBytes (entries.flatMap Entry.frame) = .ok ((entries.drop m).map Entry.record) ∧
      (((entries.flatMap Entry.frame).length : Int) ≤ tailBytes → m = 0) ∧
      ∀ j ≤ entries.length, (((entries.drop j).flatMap Entry.frame).length : Int) < tailBytes →
        m ≤ j := by
  obtain ⟨m, most, read, least⟩ := records_frames_iff readable positive
  exact ⟨m, most, read, fun fits => Nat.le_zero.1 ((least 0 (Nat.zero_le _)).2 (.inl fits)),
    fun j inside short => (least j inside).2 (.inr short)⟩

theorem read_records {store : Store}
    (found : records tailBytes store.bytes = .ok (entries.map Entry.record))
    (readable : ∀ entry ∈ entries, entry.Readable) (filter : Filter) (limit : Int) :
    store.read tailBytes filter limit =
      .ok (((entries.reverse.filter filter.wants).take (min limit.toNat maxRecords)).map
        Entry.record) := by
  have newest : ∀ entry ∈ entries.reverse, entry.Readable :=
    fun entry member => readable entry (List.mem_reverse.1 member)
  unfold Store.read
  dsimp only
  split
  next none => rw [none]; rfl
  next =>
    rw [found]
    change select filter (min limit.toNat maxRecords) (entries.map Entry.record).reverse = _
    rw [← List.map_reverse, select_records newest]

end Reading

section Writing

variable {entry : Entry} {entries : List Entry} {folder written : Folder}

theorem of_write (write : folder.write entry = .ok written) :
    ∃ line, entry.line = .ok line ∧
      written.store.bytes = folder.store.bytes ++ encodeUtf8 line := by
  cases line : entry.line with
  | error error =>
    cases folder with
    | blocked => cases write
    | missing | present =>
      simp only [Folder.write, Store.write, line] at write
      cases write
  | ok text =>
    refine ⟨text, rfl, ?_⟩
    cases folder with
    | blocked => cases write
    | missing | present =>
      simp only [Folder.write, Store.write, line] at write
      cases write
      exact Store.bytes_append _ _

/-- What is written goes to the end of the log, one line for each entry. -/
theorem readable_of_foldlM_write
    (json : ∀ entry ∈ entries, IsWritten (.mapping entry.event.context))
    (writes : entries.foldlM Folder.write folder = .ok written) :
    (∀ entry ∈ entries, entry.Readable) ∧
      written.store.bytes = folder.store.bytes ++ entries.flatMap Entry.frame := by
  induction entries generalizing folder with
  | nil =>
    cases writes
    exact ⟨nofun, by simp⟩
  | cons entry entries ih =>
    obtain ⟨context, contexts⟩ := List.forall_mem_cons.1 json
    rw [List.foldlM_cons] at writes
    cases write : folder.write entry with
    | error error =>
      rw [write] at writes
      cases writes
    | ok next =>
      rw [write] at writes
      obtain ⟨line, lineWritten, appended⟩ := of_write write
      obtain ⟨readable, frame⟩ := of_line_eq_ok lineWritten context
      obtain ⟨others, bytes⟩ := ih contexts writes
      refine ⟨List.forall_mem_cons.2 ⟨readable, others⟩, ?_⟩
      rw [bytes, appended, frame, List.append_assoc, List.flatMap_cons]

theorem of_foldlM_write (json : ∀ entry ∈ entries, IsJson (.mapping entry.event.context))
    (writes : entries.foldlM Folder.write folder = .ok written) :
    (∀ entry ∈ entries, entry.Readable) ∧
      written.store.bytes = folder.store.bytes ++ entries.flatMap Entry.frame :=
  readable_of_foldlM_write (fun entry member => (json entry member).isWritten) writes

/-- Writing succeeds where nothing is in the way of the folder and no context nests too deeply. -/
theorem exists_foldlM_write (free : folder ≠ .blocked)
    (version : ∀ entry ∈ entries, entry.schemaVersion.natAbs < 10 ^ maxNumeralDigits)
    (json : ∀ entry ∈ entries, IsJson (.mapping entry.event.context))
    (shallow : ∀ entry ∈ entries, heightOfEntries entry.event.context ≤ maxHeight) :
    ∃ written, entries.foldlM Folder.write folder = .ok written := by
  induction entries generalizing folder with
  | nil => exact ⟨folder, rfl⟩
  | cons entry entries ih =>
    obtain ⟨versioned, versions⟩ := List.forall_mem_cons.1 version
    obtain ⟨context, contexts⟩ := List.forall_mem_cons.1 json
    obtain ⟨flat, flats⟩ := List.forall_mem_cons.1 shallow
    have line := line_eq_ok versioned context.isWritten flat
    obtain ⟨store, write⟩ : ∃ store, folder.write entry = .ok (.present store) := by
      cases folder with
      | blocked => exact absurd rfl free
      | missing | present =>
        simp only [Folder.write, Store.write, line]
        exact ⟨_, rfl⟩
    rw [List.foldlM_cons, write]
    exact ih nofun versions contexts flats

end Writing

/-- A log gives back what was written: the newest entries, newest first, those a filter asks for and
not more than the limit. It is all of them where the log is not longer than what is looked at, and at
least those whose lines take fewer bytes than that. -/
theorem read_written {entries : List Entry} {folder : Folder} {tailBytes : Int} (flushes : Bool)
    (positive : 0 < tailBytes)
    (json : ∀ entry ∈ entries, IsJson (.mapping entry.event.context))
    (written : entries.foldlM Folder.write .missing = .ok folder) :
    ∃ k ≤ entries.length,
      ((folder.store.bytes.length : Int) ≤ tailBytes → k = entries.length) ∧
      (∀ j ≤ entries.length,
        (((entries.reverse.take j).flatMap Entry.frame).length : Int) < tailBytes → j ≤ k) ∧
      ∀ filter limit,
        folder.store.read (Sink.make flushes (some tailBytes)).tailBytes filter limit =
          .ok ((((entries.reverse.take k).filter filter.wants).take
            (min limit.toNat 2000)).map Entry.record) := by
  obtain ⟨readable, bytes⟩ := of_foldlM_write json written
  have bytes : folder.store.bytes = entries.flatMap Entry.frame := bytes
  obtain ⟨m, most, read, whole, least⟩ := records_frames readable positive
  have newest (j : Nat) : (((entries.reverse.take j).flatMap Entry.frame).length : Int) =
      ((entries.drop (entries.length - j)).flatMap Entry.frame).length := by
    rw [List.take_reverse, ((List.reverse_perm _).flatMap_right Entry.frame).length_eq]
  have kept : entries.reverse.take (entries.length - m) = (entries.drop m).reverse := by
    rw [List.take_reverse, Nat.sub_sub_self most]
  have given : (Sink.make flushes (some tailBytes)).tailBytes = tailBytes :=
    if_neg (Int.ne_of_gt positive)
  refine ⟨entries.length - m, Nat.sub_le _ _, fun fits => ?_, fun j inside short => ?_,
    fun filter limit => ?_⟩
  · rw [bytes] at fits
    rw [whole fits, Nat.sub_zero]
  · rw [newest] at short
    have := least (entries.length - j) (Nat.sub_le _ _) short
    omega
  · rw [given, kept]
    exact read_records (bytes ▸ read) (fun entry member => readable entry (List.mem_of_mem_drop member))
      filter limit

def brokenLine : Entry :=
  ⟨1, "2024-05-01T12:00:00.000000Z", .info, .cellUpdated,
    [("cell", .text "A1"), ("a\nkey", .list [.integer (-7), .text "\u0085"]), ("share", .float "0.5")],
    "first\nsecond\u2028\x7b\"level\": \"error\"\x7d", none⟩

theorem isNumeral_half : IsNumeral "0.5" := by
  have written : (Double.mk (2 ^ 52) (-53)).chars = ['0', '.', '5'] := by decide +kernel
  exact ⟨false, ⟨2 ^ 52, -53⟩, ⟨by decide, by decide, by decide, by decide⟩, by rw [written]; rfl⟩

theorem read_written_broken_lines :
    ∃ folder, [brokenLine, brokenLine].foldlM Folder.write .missing = .ok folder ∧ ∃ k ≤ 2,
      ((folder.store.bytes.length : Int) ≤ 100 → k = 2) ∧
      (∀ j ≤ 2, ((([brokenLine, brokenLine].reverse.take j).flatMap Entry.frame).length : Int) < 100 →
        j ≤ k) ∧
      ∀ filter limit,
        folder.store.read (Sink.make false (some 100)).tailBytes filter limit =
          .ok (((([brokenLine, brokenLine].reverse.take k).filter filter.wants).take
            (min limit.toNat 2000)).map Entry.record) := by
  have digit {n : Nat} (single : n < 10 ^ 1) : n < 10 ^ maxNumeralDigits :=
    single.trans_le (Nat.pow_le_pow_right (by decide) (by decide))
  have context : IsJson (.mapping brokenLine.event.context) := by
    refine .mapping (by decide) (List.forall_mem_cons.2 ⟨.text _, List.forall_mem_cons.2 ⟨.list ?_,
      List.forall_mem_singleton.2 (.float isNumeral_half)⟩⟩)
    exact List.forall_mem_cons.2 ⟨.integer (digit (by decide)), List.forall_mem_singleton.2 (.text _)⟩
  have both {p : Entry → Prop} (one : p brokenLine) : ∀ entry ∈ [brokenLine, brokenLine], p entry :=
    List.forall_mem_cons.2 ⟨one, List.forall_mem_singleton.2 one⟩
  have free : Folder.missing ≠ .blocked := nofun
  obtain ⟨folder, written⟩ :=
    exists_foldlM_write free (both (digit (by decide))) (both context) (both (by decide))
  exact ⟨folder, written, read_written false (by decide) (both context) written⟩

end FormulaGrid.Log

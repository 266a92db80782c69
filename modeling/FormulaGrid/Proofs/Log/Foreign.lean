import FormulaGrid.Proofs.Failure
import FormulaGrid.Proofs.Log.Tail

/-! A log with lines in it that no entry has: each line is read by itself, whatever its bytes are. A
foreign line goes unnoticed just when it is blank or no JSON. One that is JSON, but no object, makes
reading fail. -/
namespace FormulaGrid.Log

open FormulaGrid.Data FormulaGrid.Failure FormulaGrid.Json FormulaGrid.Text

section Decoding

variable {begun : Option Partial}

/-- Whether a character that has begun goes on with a byte beyond ASCII, if at all. -/
def GoesOn (begun : Option Partial) : Prop :=
  ∀ read ∈ begun, 0x80 ≤ read.low

theorem goesOn_leadByte (byte : Nat) : GoesOn (leadByte byte).2 := by
  unfold leadByte
  repeat' split
  all_goals simp [GoesOn]

theorem goesOn_nextByte (read : Partial) (byte : Nat) : GoesOn (nextByte read byte).2 := by
  unfold nextByte
  split
  · dsimp only
    split <;> simp [GoesOn]
  · exact goesOn_leadByte byte

theorem decodeFrom_lead (byte : UInt8) (bytes : List UInt8) :
    decodeFrom none (byte :: bytes) =
      (leadByte byte.toNat).1 ++ decodeFrom (leadByte byte.toNat).2 bytes :=
  rfl

theorem decodeFrom_next (read : Partial) (byte : UInt8) (bytes : List UInt8) :
    decodeFrom (some read) (byte :: bytes) =
      (nextByte read byte.toNat).1 ++ decodeFrom (nextByte read byte.toNat).2 bytes :=
  rfl

/-- A line feed stands for itself, even behind the beginning of another character. -/
theorem decodeFrom_newline (goesOn : GoesOn begun) (front back : List UInt8) :
    decodeFrom begun (front ++ 10 :: back) =
      decodeFrom begun front ++ '\n' :: decodeFrom none back := by
  induction front generalizing begun with
  | nil =>
    cases begun with
    | none => rfl
    | some read =>
      have low := goesOn read rfl
      have broken : nextByte read (10 : UInt8).toNat = ([replacement, '\n'], none) := by
        have outside : ¬(read.low ≤ 10 ∧ 10 ≤ read.high) := by omega
        exact if_neg outside
      rw [List.nil_append, decodeFrom_next, broken]
      rfl
  | cons byte front ih =>
    rw [List.cons_append]
    cases begun with
    | none =>
      rw [decodeFrom_lead, decodeFrom_lead, ih (goesOn_leadByte _), List.append_assoc]
    | some read =>
      rw [decodeFrom_next, decodeFrom_next, ih (goesOn_nextByte _ _), List.append_assoc]

theorem decodeUtf8_newline (front back : List UInt8) :
    decodeUtf8 (front ++ 10 :: back) = decodeUtf8 front ++ '\n' :: decodeUtf8 back :=
  decodeFrom_newline (fun _ none => absurd none (Option.not_mem_none _)) front back

end Decoding

section Splitting

variable {run rest cs : List Char} {e : Char}

theorem lines_plain (filled : run ≠ []) (plain : ∀ c ∈ run, isLineEnd c = false) :
    lines run = run :: lines [] := by
  have all : ∀ c ∈ run, (!isLineEnd c) = true := fun c member => by rw [plain c member]; rfl
  obtain ⟨c, cs, rfl⟩ := List.exists_cons_of_ne_nil filled
  conv_lhs =>
    rw [lines, List.takeWhile_eq_self_iff.2 all, List.dropWhile_eq_nil_iff.2 all, afterLineEnd]

theorem plain_or_run (cs : List Char) :
    (∀ c ∈ cs, isLineEnd c = false) ∨ ∃ run e rest, cs = run ++ e :: rest ∧
      (∀ c ∈ run, isLineEnd c = false) ∧ isLineEnd e := by
  induction cs with
  | nil => exact .inl nofun
  | cons c cs ih =>
    cases ends : isLineEnd c with
    | true => exact .inr ⟨[], c, cs, rfl, nofun, ends⟩
    | false =>
      rcases ih with plain | ⟨run, e, rest, rfl, plain, last⟩
      · exact .inl (List.forall_mem_cons.2 ⟨ends, plain⟩)
      · exact .inr ⟨c :: run, e, rest, rfl, List.forall_mem_cons.2 ⟨ends, plain⟩, last⟩

/-- What follows a line end does not depend on what comes later, unless that is a line feed right
behind a carriage return. -/
theorem afterLineEnd_append (e : Char) (rest back : List Char) :
    (e = '\r' ∧ rest = []) ∨
      afterLineEnd (e :: (rest ++ '\n' :: back)) = afterLineEnd (e :: rest) ++ '\n' :: back := by
  by_cases carriage : e = '\r'
  · subst carriage
    cases rest with
    | nil => exact .inl ⟨rfl, rfl⟩
    | cons c rest =>
      by_cases feed : c = '\n'
      · subst feed
        exact .inr rfl
      · refine .inr ?_
        simp [afterLineEnd, feed]
  · refine .inr ?_
    simp [afterLineEnd, carriage]

end Splitting

section Records

variable {cs line : List Char} {texts : List (List Char)} {data : Data} {found : List Data}

/-- Whether reading passes over a line: it is blank, or no JSON. -/
def Skipped (line : List Char) : Prop :=
  (trim line).isEmpty ∨ Json.read line = .error .malformed

theorem recordOf?_eq_none_iff : recordOf? line = .ok none ↔ Skipped line := by
  unfold recordOf? Skipped
  split
  next blank => simp [blank]
  next shown =>
    split
    next data read => simp [shown, read]
    next malformed => simp [malformed]
    next digits tooLong => simp [shown, tooLong]
    next deep => simp [shown, deep]

theorem read_of_recordOf? (record : recordOf? line = .ok (some data)) :
    Json.read line = .ok data := by
  unfold recordOf? at record
  split at record
  · cases record
  · split at record <;> cases record
    assumption

def recordsOf (texts : List (List Char)) : Except ReadError (List Data) :=
  return (← texts.mapM recordOf?).filterMap id

def recordsIn (cs : List Char) : Except ReadError (List Data) :=
  recordsOf (lines cs)

theorem recordsOf_cons (line : List Char) (texts : List (List Char)) :
    recordsOf (line :: texts) = do
      let record ← recordOf? line
      let records ← recordsOf texts
      return record.toList ++ records := by
  unfold recordsOf
  rw [List.mapM_cons]
  cases recordOf? line with
  | error error => rfl
  | ok record =>
    cases texts.mapM recordOf? with
    | error error => rfl
    | ok records => cases record <;> rfl

theorem recordsOf_skipped (skipped : ∀ line ∈ texts, Skipped line) : recordsOf texts = .ok [] := by
  induction texts with
  | nil => rfl
  | cons line texts ih =>
    obtain ⟨first, others⟩ := List.forall_mem_cons.1 skipped
    rw [recordsOf_cons, recordOf?_eq_none_iff.2 first, ih others]
    rfl

theorem of_recordsOf (read : recordsOf texts = .ok found) :
    ∀ line ∈ texts, Skipped line ∨ ∃ data ∈ found, Json.read line = .ok data := by
  induction texts generalizing found with
  | nil => exact nofun
  | cons line texts ih =>
    rw [recordsOf_cons] at read
    obtain ⟨record, first, read⟩ := bind_eq_ok.1 read
    obtain ⟨records, rest, same⟩ := bind_eq_ok.1 read
    obtain rfl : record.toList ++ records = found := Except.ok.inj same
    refine List.forall_mem_cons.2 ⟨?_, fun other member => ?_⟩
    · cases record with
      | none => exact .inl (recordOf?_eq_none_iff.1 first)
      | some data => exact .inr ⟨data, List.mem_cons_self, read_of_recordOf? first⟩
    · refine (ih rest other member).imp_right fun ⟨data, among, read⟩ => ?_
      exact ⟨data, List.mem_append_right _ among, read⟩

theorem recordsIn_nil : recordsIn [] = .ok [] := by
  rw [recordsIn, lines]
  rfl

theorem recordsIn_line {rest : List Char} (split : lines cs = line :: lines rest) :
    recordsIn cs = do
      let record ← recordOf? line
      let records ← recordsIn rest
      return record.toList ++ records := by
  rw [recordsIn, split, recordsOf_cons]
  rfl

theorem recordsIn_newline (front back : List Char) :
    recordsIn (front ++ '\n' :: back) = do
      let records ← recordsIn front
      let later ← recordsIn back
      return records ++ later := by
  induction size : front.length using Nat.strong_induction_on generalizing front with
  | _ size ih =>
    rcases plain_or_run front with plain | ⟨run, e, rest, rfl, plain, ends⟩
    · rw [recordsIn_line (lines_cons plain)]
      cases front with
      | nil =>
        rw [recordsIn_nil]
        cases recordsIn back <;> rfl
      | cons c front =>
        rw [recordsIn_line (lines_plain (List.cons_ne_nil c front) plain), recordsIn_nil]
        cases recordOf? (c :: front) <;> cases recordsIn back <;> simp
    · rw [recordsIn_line (lines_run plain ends), List.append_assoc, List.cons_append,
        recordsIn_line (lines_run plain ends)]
      -- A carriage return at the end takes the line feed along, and both end one line.
      rcases afterLineEnd_append e rest back with ⟨rfl, rfl⟩ | later
      · have none : recordsIn (afterLineEnd ['\r']) = .ok [] := recordsIn_nil
        have after : afterLineEnd ('\r' :: ([] ++ '\n' :: back)) = back := rfl
        rw [none, after]
        cases recordOf? run <;> cases recordsIn back <;> simp
      · have shorter := length_afterLineEnd_le (e :: rest)
        simp only [List.length_append, List.length_cons] at size shorter
        rw [later, ih _ (by omega) _ rfl]
        cases recordOf? run <;> cases recordsIn (afterLineEnd (e :: rest)) <;>
          cases recordsIn back <;> simp

theorem recordsIn_text {entry : Entry} (readable : entry.Readable) :
    recordsIn entry.text = .ok [entry.record] := by
  have filled : entry.text ≠ [] := List.cons_ne_nil _ _
  have plain : ∀ c ∈ entry.text, isLineEnd c = false := fun c member =>
    isLineEnd_plain (plain_text readable c member)
  rw [recordsIn_line (lines_plain filled plain), recordOf?_text readable, recordsIn_nil]
  rfl

end Records

/-- A line of a log: that of an entry, or other bytes in front of a line feed. -/
inductive Line where
  | own (entry : Entry)
  | foreign (bytes : List UInt8)

namespace Line

def own? : Line → Option Entry
  | .own entry => some entry
  | .foreign _ => none

def foreign? : Line → Option (List UInt8)
  | .own _ => none
  | .foreign bytes => some bytes

def bytes : Line → List UInt8
  | .own entry => entry.frame
  | .foreign bytes => bytes ++ [10]

def text : Line → List Char
  | .own entry => entry.text
  | .foreign bytes => decodeUtf8 bytes

end Line

/-- The texts, of those a log is split into, that no entry has. Behind its last line there may be
bytes without an end. -/
def foreignTexts (log : List Line) (rest : List UInt8) : List (List Char) :=
  (log.filterMap Line.foreign? ++ [rest]).flatMap fun bytes => lines (decodeUtf8 bytes)

section Lines

variable {line : Line} {log : List Line} {rest : List UInt8} {found : List Data}

theorem foreignTexts_foreign (bytes : List UInt8) (log : List Line) (rest : List UInt8) :
    foreignTexts (.foreign bytes :: log) rest =
      lines (decodeUtf8 bytes) ++ foreignTexts log rest :=
  rfl

theorem foreignTexts_nil (rest : List UInt8) : foreignTexts [] rest = lines (decodeUtf8 rest) :=
  List.append_nil _

theorem decodeUtf8_bytes (readable : ∀ entry ∈ line.own?, entry.Readable) (back : List UInt8) :
    decodeUtf8 (line.bytes ++ back) = line.text ++ '\n' :: decodeUtf8 back := by
  cases line with
  | own entry =>
    have ascii := ascii_text (readable entry rfl)
    have body := decodeUtf8_ascii fun c member => ascii c (List.mem_append_left _ member)
    have framed : entry.frame = entry.text.map asciiByte ++ [10] := by
      rw [frame_eq (readable entry rfl), List.map_append]
      rfl
    change decodeUtf8 (entry.frame ++ back) = entry.text ++ '\n' :: decodeUtf8 back
    rw [framed, List.append_assoc, List.singleton_append, decodeUtf8_newline, body]
  | foreign bytes =>
    change decodeUtf8 (bytes ++ [10] ++ back) = decodeUtf8 bytes ++ '\n' :: decodeUtf8 back
    rw [List.append_assoc, List.singleton_append, decodeUtf8_newline]

theorem recordsIn_log_cons (readable : ∀ entry ∈ line.own?, entry.Readable) :
    recordsIn (decodeUtf8 ((line :: log).flatMap Line.bytes ++ rest)) = do
      let records ← recordsIn line.text
      let later ← recordsIn (decodeUtf8 (log.flatMap Line.bytes ++ rest))
      return records ++ later := by
  rw [List.flatMap_cons, List.append_assoc, decodeUtf8_bytes readable, recordsIn_newline]

/-- Where reading passes over the foreign texts, the records are those of the entries. -/
theorem recordsIn_log (readable : ∀ entry ∈ log.filterMap Line.own?, entry.Readable)
    (skipped : ∀ text ∈ foreignTexts log rest, Skipped text) :
    recordsIn (decodeUtf8 (log.flatMap Line.bytes ++ rest)) =
      .ok ((log.filterMap Line.own?).map Entry.record) := by
  induction log with
  | nil =>
    rw [foreignTexts_nil] at skipped
    exact recordsOf_skipped skipped
  | cons line log ih =>
    cases line with
    | own entry =>
      obtain ⟨first, others⟩ := List.forall_mem_cons.1 readable
      have line : ∀ own ∈ (Line.own entry).own?, own.Readable := fun _ own =>
        Option.mem_some.1 own ▸ first
      rw [recordsIn_log_cons line, Line.text, recordsIn_text first, ih others skipped]
      rfl
    | foreign bytes =>
      rw [foreignTexts_foreign] at skipped
      obtain ⟨first, others⟩ := List.forall_mem_append.1 skipped
      have line : ∀ own ∈ (Line.foreign bytes).own?, own.Readable := fun own given =>
        absurd given (Option.not_mem_none own)
      have none : recordsIn (Line.foreign bytes).text = .ok [] := recordsOf_skipped first
      rw [recordsIn_log_cons line, none, ih readable others]
      rfl

/-- Every foreign text that is not passed over gives one of the records. -/
theorem of_recordsIn_log (readable : ∀ entry ∈ log.filterMap Line.own?, entry.Readable)
    (read : recordsIn (decodeUtf8 (log.flatMap Line.bytes ++ rest)) = .ok found) :
    ∀ text ∈ foreignTexts log rest,
      Skipped text ∨ ∃ data ∈ found, Json.read text = .ok data := by
  induction log generalizing found with
  | nil =>
    rw [foreignTexts_nil]
    exact of_recordsOf read
  | cons line log ih =>
    have first : ∀ own ∈ line.own?, own.Readable := fun own given =>
      readable own (List.mem_filterMap.2 ⟨line, List.mem_cons_self, given⟩)
    have others : ∀ entry ∈ log.filterMap Line.own?, entry.Readable := fun entry member =>
      readable entry (((List.sublist_cons_self line log).filterMap Line.own?).subset member)
    rw [recordsIn_log_cons first] at read
    obtain ⟨records, here, read⟩ := bind_eq_ok.1 read
    obtain ⟨later, behind, same⟩ := bind_eq_ok.1 read
    obtain rfl : records ++ later = found := Except.ok.inj same
    have below : ∀ text ∈ foreignTexts log rest,
        Skipped text ∨ ∃ data ∈ records ++ later, Json.read text = .ok data :=
      fun text member => (ih others behind text member).imp_right fun ⟨data, among, read⟩ =>
        ⟨data, List.mem_append_right _ among, read⟩
    cases line with
    | own entry => exact below
    | foreign bytes =>
      rw [foreignTexts_foreign]
      refine List.forall_mem_append.2 ⟨fun text member => ?_, below⟩
      exact (of_recordsOf here text member).imp_right fun ⟨data, among, read⟩ =>
        ⟨data, List.mem_append_left _ among, read⟩

end Lines

section Selecting

variable {filter : Filter} {data : Data} {found : List Data} {count : Nat}

theorem mapping_of_accepts {wanted : String} {accepted : Bool} (level : filter.level = some wanted)
    (named : wanted ≠ "") (read : filter.accepts data = .ok accepted) :
    ∃ entries, data = .mapping entries := by
  have asked : filter.level.filter (· != "") = some wanted := by simp [level, named]
  unfold Filter.accepts matchesField at read
  rw [asked] at read
  cases data with
  | mapping entries => exact ⟨entries, rfl⟩
  | _ => cases read

theorem accepts_of_select (none : select filter (count + 1) found = .ok []) :
    ∀ data ∈ found, filter.accepts data = .ok false := by
  induction found with
  | nil => exact nofun
  | cons data found ih =>
    rw [select] at none
    obtain ⟨accepted, first, none⟩ := bind_eq_ok.1 none
    cases accepted with
    | true =>
      obtain ⟨records, _, same⟩ := bind_eq_ok.1 none
      cases same
    | false => exact List.forall_mem_cons.2 ⟨first, ih none⟩

end Selecting

section Reading

variable {log : List Line} {rest : List UInt8} {store : Store} {tailBytes : Int}

theorem records_log (bytes : store.bytes = log.flatMap Line.bytes ++ rest)
    (fits : (store.bytes.length : Int) ≤ tailBytes) :
    records tailBytes store.bytes =
      recordsIn (decodeUtf8 (log.flatMap Line.bytes ++ rest)) := by
  have whole : tail tailBytes store.bytes = store.bytes := if_pos fits
  rw [records, whole, bytes]
  rfl

def Filter.never : Filter :=
  ⟨some "?", none, none⟩

theorem wants_never (entry : Entry) : Filter.never.wants entry = false := by
  unfold Filter.wants
  cases entry.event.level <;> rfl

theorem length_own_le (log : List Line) (rest : List UInt8) :
    ((log.filterMap Line.own?).flatMap Entry.frame).length ≤
      (log.flatMap Line.bytes ++ rest).length := by
  refine le_trans ?_ (List.sublist_append_left _ rest).length_le
  induction log with
  | nil => exact Nat.le_refl _
  | cons line log ih =>
    cases line with
    | own entry =>
      change (entry.frame ++ (log.filterMap Line.own?).flatMap Entry.frame).length ≤
        (entry.frame ++ log.flatMap Line.bytes).length
      rw [List.length_append, List.length_append]
      exact Nat.add_le_add_left ih _
    | foreign bytes => exact ih.trans (List.sublist_append_right _ _).length_le

end Reading

/-- A log with other lines between its own, none of which has the JSON of an object in it. It is read
like the log without them, whatever is asked for, just when reading passes over all of them: when each
is blank or no JSON. -/
theorem reads_alike_iff {log : List Line} {rest : List UInt8} {folder : Folder} {store : Store}
    (sink : Sink)
    (json : ∀ entry ∈ log.filterMap Line.own?, IsWritten (.mapping entry.event.context))
    (written : (log.filterMap Line.own?).foldlM Folder.write .missing = .ok folder)
    (bytes : store.bytes = log.flatMap Line.bytes ++ rest)
    (fits : (store.bytes.length : Int) ≤ sink.tailBytes)
    (objectless : ∀ text ∈ foreignTexts log rest, ∀ entries,
      Json.read text ≠ .ok (.mapping entries)) :
    (∀ filter limit, ∃ found,
        store.read sink.tailBytes filter limit = .ok found ∧
          folder.store.read sink.tailBytes filter limit = .ok found) ↔
      ∀ text ∈ foreignTexts log rest, Skipped text := by
  obtain ⟨readable, own⟩ := readable_of_foldlM_write json written
  have own : folder.store.bytes = (log.filterMap Line.own?).flatMap Entry.frame := own
  have ownFits : (folder.store.bytes.length : Int) ≤ sink.tailBytes := by
    have fewer := length_own_le log rest
    rw [own]
    rw [bytes] at fits
    omega
  have alone : records sink.tailBytes folder.store.bytes =
      .ok ((log.filterMap Line.own?).map Entry.record) :=
    records_of_tail readable ((if_pos ownFits).trans own)
  have whole := records_log bytes fits
  refine ⟨fun alike => ?_, fun skipped filter limit => ?_⟩
  · -- Nothing has the level asked for, so that every record is looked at, and all are mappings.
    obtain ⟨found, foreign, without⟩ := alike .never 1
    rw [read_records alone readable, List.filter_eq_nil_iff.2 fun entry _ => by
      simp [wants_never]] at without
    obtain rfl : [] = found := Except.ok.inj without
    obtain ⟨data, read, selected⟩ := bind_eq_ok.1 foreign
    rw [whole] at read
    intro text member
    refine (of_recordsIn_log readable read text member).resolve_right fun ⟨data, among, json⟩ => ?_
    obtain ⟨entries, rfl⟩ := mapping_of_accepts rfl (by decide)
      (accepts_of_select selected data (List.mem_reverse.2 among))
    exact objectless text member entries json
  · have read := whole.trans (recordsIn_log readable skipped)
    exact ⟨_, read_records read readable filter limit, read_records alone readable filter limit⟩

section Scraps

theorem bytes_singleton (bytes : List UInt8) : (Store.mk [bytes]).bytes = bytes := by
  simp [Store.bytes]

theorem reads_alike_between_scraps :
    let log : List Line :=
      [.foreign [0x78], .own shortLine, .foreign [0x20], .own shortLine]
    let store : Store := ⟨[log.flatMap Line.bytes ++ [0x7B]]⟩
    let sink : Sink := ⟨false, store.bytes.length⟩
    ∃ folder, [shortLine, shortLine].foldlM Folder.write .missing = .ok folder ∧
      ∀ filter limit, ∃ found, store.read sink.tailBytes filter limit = .ok found ∧
        folder.store.read sink.tailBytes filter limit = .ok found := by
  intro log store sink
  obtain ⟨folder, written⟩ := exists_shortLines
  have json : ∀ entry ∈ log.filterMap Line.own?, IsWritten (.mapping entry.event.context) :=
    isWritten_shortLines
  have texts : foreignTexts log [0x7B] = [['x'], [' '], ['\x7b']] := by decide +kernel
  have letter : Json.read ['x'] = .error .malformed := by cbv
  have blank : Json.read [' '] = .error .malformed := by cbv
  have torn : Json.read ['\x7b'] = .error .malformed := by cbv
  have malformed : ∀ text ∈ foreignTexts log [0x7B], Json.read text = .error .malformed := by
    simp [texts, letter, blank, torn]
  have objectless : ∀ text ∈ foreignTexts log [0x7B], ∀ entries,
      Json.read text ≠ .ok (.mapping entries) := fun text member entries read => by
    cases (malformed text member).symm.trans read
  exact ⟨folder, written, (reads_alike_iff sink json written (bytes_singleton _) (Int.le_refl _)
    objectless).2 fun text member => .inr (malformed text member)⟩

/-- A number on a line of its own makes reading fail where a filter asks for a level. -/
theorem lone_number_fails :
    ¬ ∀ (log : List Line) (rest : List UInt8) (folder : Folder) (store : Store) (sink : Sink),
      (∀ entry ∈ log.filterMap Line.own?, IsWritten (.mapping entry.event.context)) →
      (log.filterMap Line.own?).foldlM Folder.write .missing = .ok folder →
      store.bytes = log.flatMap Line.bytes ++ rest →
      (store.bytes.length : Int) ≤ sink.tailBytes →
      (∀ text ∈ foreignTexts log rest, ∀ entries, Json.read text ≠ .ok (.mapping entries)) →
      ∀ filter limit, ∃ found, store.read sink.tailBytes filter limit = .ok found ∧
        folder.store.read sink.tailBytes filter limit = .ok found := by
  intro undisturbed
  obtain ⟨folder, written⟩ := exists_shortLines
  have readable := (readable_of_foldlM_write isWritten_shortLines written).1 _ List.mem_cons_self
  let log : List Line := [.own shortLine, .own shortLine, .foreign [0x35]]
  let store : Store := ⟨[log.flatMap Line.bytes ++ []]⟩
  have json : ∀ entry ∈ log.filterMap Line.own?, IsWritten (.mapping entry.event.context) :=
    isWritten_shortLines
  have five : Json.read ['5'] = .ok (.integer 5) := by cbv
  have texts : foreignTexts log [] = [['5']] := by decide +kernel
  have objectless : ∀ text ∈ foreignTexts log [], ∀ entries,
      Json.read text ≠ .ok (.mapping entries) := by
    simp [texts, five]
  obtain ⟨found, read, -⟩ := undisturbed log [] folder store ⟨false, store.bytes.length⟩
    json written (bytes_singleton _) (Int.le_refl _) objectless
    ⟨some "info", none, none⟩ 1
  have own : ∀ entry ∈ (Line.own shortLine).own?, entry.Readable := fun _ same =>
    Option.mem_some.1 same ▸ readable
  have number : recordsIn (decodeUtf8 ([Line.foreign [0x35]].flatMap Line.bytes ++ [])) =
      .ok [.integer 5] := by
    have text : decodeUtf8 ([Line.foreign [0x35]].flatMap Line.bytes ++ []) = ['5'] ++ ['\n'] := by
      decide +kernel
    have plain : ∀ c ∈ ['5'], isLineEnd c = false := List.forall_mem_singleton.2 rfl
    rw [text, recordsIn_newline, recordsIn_line (lines_plain (List.cons_ne_nil _ _) plain),
      recordOf?, five, recordsIn_nil]
    rfl
  have whole : records store.bytes.length store.bytes =
      .ok [shortLine.record, shortLine.record, .integer 5] := by
    rw [records_log (bytes_singleton _) (Int.le_refl _), recordsIn_log_cons own,
      recordsIn_log_cons own, Line.text, recordsIn_text readable, number]
    rfl
  rw [Store.read, whole] at read
  cases read

end Scraps

end FormulaGrid.Log

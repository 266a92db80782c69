import FormulaGrid.Proofs.Log.History

/-! The end of a log, read without a filter: which entries come back depends on where their lines
begin. A line that begins right at the cut is dropped, though all of it lies behind the cut. -/
namespace FormulaGrid.Log

open FormulaGrid.Data FormulaGrid.Json FormulaGrid.Text

def Filter.every : Filter :=
  ⟨none, none, none⟩

section Newest

variable {entries : List Entry} {store : Store} {tailBytes : Int}

theorem read_every (found : records tailBytes store.bytes = .ok (entries.map Entry.record))
    (readable : ∀ entry ∈ entries, entry.Readable) (few : entries.length ≤ maxRecords) :
    store.read tailBytes .every maxRecords = .ok (entries.map Entry.record).reverse := by
  have all : entries.reverse.filter Filter.every.wants = entries.reverse :=
    List.filter_eq_self.2 fun _ _ => rfl
  have taken : entries.reverse.take maxRecords = entries.reverse :=
    List.take_of_length_le (by rwa [List.length_reverse])
  rw [read_records found readable, all, Int.toNat_natCast, Nat.min_self, taken, List.map_reverse]

/-- Reading gives the newest entries, those whose lines take fewer bytes together than are looked
at, unless the whole log is looked at. -/
theorem read_newest (flushes : Bool) (bytes : store.bytes = entries.flatMap Entry.frame)
    (readable : ∀ entry ∈ entries, entry.Readable) (few : entries.length ≤ maxRecords)
    (positive : 0 < tailBytes) :
    ∃ m ≤ entries.length,
      store.read (Sink.make flushes (some tailBytes)).tailBytes .every maxRecords =
        .ok ((entries.drop m).map Entry.record).reverse ∧
      ∀ i ≤ entries.length, m ≤ i ↔ (store.bytes.length : Int) ≤ tailBytes ∨
        (((entries.drop i).flatMap Entry.frame).length : Int) < tailBytes := by
  obtain ⟨m, most, found, exact⟩ := records_frames_iff readable positive
  rw [← bytes] at found exact
  have given : (Sink.make flushes (some tailBytes)).tailBytes = tailBytes :=
    if_neg (Int.ne_of_gt positive)
  have kept : ∀ entry ∈ entries.drop m, entry.Readable :=
    fun entry member => readable entry (List.mem_of_mem_drop member)
  have fewer : (entries.drop m).length ≤ maxRecords := by
    rw [List.length_drop]
    exact (Nat.sub_le _ _).trans few
  rw [given]
  exact ⟨m, most, read_every found kept fewer, exact⟩

end Newest

/-- Of a log of no more entries than can be read at once, reading without a filter gives the newest
ones, newest first. An entry is among them just when the whole log is looked at, or when its line and
all that follow take fewer bytes than are looked at. -/
theorem read_tail {entries : List Entry} {folder : Folder} {tailBytes : Int} (flushes : Bool)
    (few : entries.length ≤ 2000) (positive : 0 < tailBytes)
    (json : ∀ entry ∈ entries, IsWritten (.mapping entry.event.context))
    (written : entries.foldlM Folder.write .missing = .ok folder) :
    folder.store.bytes = entries.flatMap Entry.frame ∧
      ∃ m ≤ entries.length,
        folder.store.read (Sink.make flushes (some tailBytes)).tailBytes .every 2000 =
          .ok ((entries.drop m).map Entry.record).reverse ∧
        ∀ i ≤ entries.length, m ≤ i ↔ (folder.store.bytes.length : Int) ≤ tailBytes ∨
          (((entries.drop i).flatMap Entry.frame).length : Int) < tailBytes := by
  obtain ⟨readable, bytes⟩ := readable_of_foldlM_write json written
  exact ⟨bytes, read_newest flushes bytes readable few positive⟩

section Boundaries

def shortLine : Entry :=
  ⟨1, "t", .info, .cellUpdated, [("cell", .text "A1")], "m", none⟩

theorem forall_mem_shortLines {p : Entry → Prop} (one : p shortLine) :
    ∀ entry ∈ [shortLine, shortLine], p entry :=
  List.forall_mem_cons.2 ⟨one, List.forall_mem_singleton.2 one⟩

theorem isJson_shortLine : IsJson (.mapping shortLine.event.context) :=
  .mapping (by decide) (List.forall_mem_singleton.2 (.text "A1"))

theorem isWritten_shortLines :
    ∀ entry ∈ [shortLine, shortLine], IsWritten (.mapping entry.event.context) :=
  forall_mem_shortLines isJson_shortLine.isWritten

theorem exists_shortLines :
    ∃ folder, [shortLine, shortLine].foldlM Folder.write .missing = .ok folder := by
  have digit : 1 < 10 ^ maxNumeralDigits := Nat.one_lt_pow (by decide) (by decide)
  exact exists_foldlM_write nofun (forall_mem_shortLines digit)
    (forall_mem_shortLines isJson_shortLine) (forall_mem_shortLines (by decide))

theorem one_lt_length_shortLine (readable : shortLine.Readable) :
    1 < shortLine.frame.length := by
  have begins : 0 < shortLine.text.length := Nat.succ_pos _
  rw [frame_eq readable, List.length_map, List.length_append]
  exact Nat.succ_lt_succ begins

theorem kept_shortLines {m : Nat} {tailBytes : Int}
    (exact : ∀ i ≤ 2, m ≤ i ↔
      (([shortLine, shortLine].flatMap Entry.frame).length : Int) ≤ tailBytes ∨
        ((([shortLine, shortLine].drop i).flatMap Entry.frame).length : Int) < tailBytes) :
    (m ≤ 0 ↔ (2 * shortLine.frame.length : Int) ≤ tailBytes) ∧
      (m ≤ 1 ↔ (2 * shortLine.frame.length : Int) ≤ tailBytes ∨
        (shortLine.frame.length : Int) < tailBytes) := by
  have first := exact 0 (by decide)
  have last := exact 1 (by decide)
  simp only [List.drop_succ_cons, List.drop_zero, List.flatMap_cons, List.flatMap_nil,
    List.append_nil, List.length_append] at first last
  omega

theorem read_tail_boundary :
    ∃ folder, [shortLine, shortLine].foldlM Folder.write .missing = .ok folder ∧
      let read (tailBytes : Int) :=
        folder.store.read (Sink.make false (some tailBytes)).tailBytes .every 2000
      read shortLine.frame.length = .ok [] ∧
        read (shortLine.frame.length + 1) = .ok [shortLine.record] := by
  obtain ⟨folder, written⟩ := exists_shortLines
  have readable := (readable_of_foldlM_write isWritten_shortLines written).1
  have long := one_lt_length_shortLine (readable _ List.mem_cons_self)
  have few : [shortLine, shortLine].length ≤ 2000 := by decide
  have positive : (0 : Int) < shortLine.frame.length := by omega
  refine ⟨folder, written, ?_, ?_⟩
  · obtain ⟨bytes, m, most, read, exact⟩ :=
      read_tail false few positive isWritten_shortLines written
    have last := (kept_shortLines (bytes ▸ exact)).2
    have most : m ≤ 2 := most
    obtain rfl : m = 2 := by omega
    exact read
  · obtain ⟨bytes, m, most, read, exact⟩ :=
      read_tail false few (positive.trans (Int.lt_succ _)) isWritten_shortLines written
    obtain ⟨first, last⟩ := kept_shortLines (bytes ▸ exact)
    obtain rfl : m = 1 := by omega
    exact read

/-- A line of which every byte is looked at is not read. -/
theorem boundary_line_dropped :
    ¬ ∀ (entries : List Entry) (folder : Folder) (tailBytes : Int), entries.length ≤ 2000 →
      0 < tailBytes → (∀ entry ∈ entries, IsWritten (.mapping entry.event.context)) →
      entries.foldlM Folder.write .missing = .ok folder →
      ∃ read, folder.store.read (Sink.make false (some tailBytes)).tailBytes .every 2000 = .ok read ∧
        ∀ (i : Nat) (inside : i < entries.length),
          (((entries.drop i).flatMap Entry.frame).length : Int) ≤ tailBytes →
            entries[i].record ∈ read := by
  intro complete
  obtain ⟨folder, written⟩ := exists_shortLines
  obtain ⟨readable, bytes⟩ := readable_of_foldlM_write isWritten_shortLines written
  have bytes : folder.store.bytes = [shortLine, shortLine].flatMap Entry.frame := bytes
  have long := one_lt_length_shortLine (readable _ List.mem_cons_self)
  have few : [shortLine, shortLine].length ≤ 2000 := by decide
  have positive : (0 : Int) < shortLine.frame.length := by omega
  obtain ⟨read, same, all⟩ :=
    complete _ folder shortLine.frame.length few positive isWritten_shortLines written
  obtain ⟨m, most, newest, exact⟩ := read_newest false bytes readable few positive
  have last := (kept_shortLines (bytes ▸ exact)).2
  have most : m ≤ 2 := most
  obtain rfl : m = 2 := by omega
  have nothing : read = [] := Except.ok.inj (same.symm.trans newest)
  have whole : (([shortLine, shortLine].drop 1).flatMap Entry.frame).length ≤
      shortLine.frame.length := by simp
  have member := all 1 (by decide) (Int.ofNat_le.2 whole)
  rw [nothing] at member
  cases member

end Boundaries

end FormulaGrid.Log

import FormulaGrid.Proofs.Sheet.Reporting

/-! What the log tells about loading a document: what came of it, once and at last. It tells nothing
where a size is null, a list, a mapping or infinite. -/
namespace FormulaGrid.Sheet

open FormulaGrid.Data FormulaGrid.Failure

/-- Whether events tell the outcome of a loading at last, and of no other before. -/
def TellsOutcome (events : List Event) (result : Except SheetError Sheet) : Prop :=
  ∃ told outcome, events = told ++ [outcome] ∧ outcome.type = .sheetLoaded ∧
    (∀ event ∈ told, event.type ≠ .sheetLoaded) ∧
    match result with
    | .ok _ => outcome.level = .info
    | .error _ => outcome.level = .error ∧ outcome.errorCode = some "sheet_invalid"

/-- Data of a kind that no size can have, and an infinite number. -/
inductive Sizeless : Data → Prop
  | null : Sizeless .null
  | list (items : List Data) : Sizeless (.list items)
  | mapping (entries : Entries) : Sizeless (.mapping entries)
  | infinite (numeral : String) (number : Decimal)
      (read : Decimal.ofNumeral? numeral.toList = some number)
      (boundless : wholePart number = .error .infinite) : Sizeless (.float numeral)

/-- A document with a sizeless number of rows, or of columns where that of rows is whole. Its cells
are looked at before. -/
inductive Unsized : Data → Prop
  | rows {entries cells : Entries} {data : Data} (ordered : cellEntries entries = .ok cells)
      (found : lookup "rows" entries = some data) (sizeless : Sizeless data) :
      Unsized (.mapping entries)
  | columns {entries cells : Entries} {data : Data} {rows : Int}
      (ordered : cellEntries entries = .ok cells)
      (whole : wholeEntry "rows" defaultSize entries = .ok rows)
      (found : lookup "columns" entries = some data) (sizeless : Sizeless data) :
      Unsized (.mapping entries)

section Sizes

variable {data : Data} {entries : Entries} {key : String} {default : Nat} {maxDepth : Int}
  {sheet : Sheet} {error : SheetError}

theorem sizeless_iff :
    Sizeless data ↔ data.toWhole = .error .wrongKind ∨ data.toWhole = .error .infinite := by
  cases data with
  | null => exact iff_of_true .null (.inl rfl)
  | list items => exact iff_of_true (.list items) (.inl rfl)
  | mapping entries => exact iff_of_true (.mapping entries) (.inl rfl)
  | boolean _ | integer _ => exact iff_of_false nofun (by simp [toWhole])
  | text written =>
    refine iff_of_false nofun ?_
    simp only [toWhole]
    split <;> simp
  | float numeral =>
    constructor
    · rintro (_ | _ | _ | ⟨_, number, read, boundless⟩)
      simp only [toWhole, read]
      exact .inr boundless
    · simp only [toWhole]
      split
      next number read =>
        rintro (kind | boundless)
        · unfold wholePart at kind
          split at kind
          · split at kind <;> cases kind
          · cases kind
          · cases kind
        · exact .infinite numeral number read boundless
      next => simp

theorem wholeEntry_silent_iff :
    (∃ error, wholeEntry key default entries = .error error ∧ isLogged error = false) ↔
      ∃ data, lookup key entries = some data ∧ Sizeless data := by
  unfold wholeEntry
  cases lookup key entries with
  | none => simp
  | some data =>
    dsimp only
    simp only [mapError_eq_error, sizeless_iff, Option.some.injEq, exists_eq_left']
    constructor
    · rintro ⟨_, ⟨cause, failed, rfl⟩, silent⟩
      rw [failed]
      cases cause with
      | wrongKind => exact .inl rfl
      | infinite => exact .inr rfl
      | malformed _ | tooLong _ | notANumber => cases silent
    · rintro (failed | failed)
      · exact ⟨_, ⟨_, failed, rfl⟩, rfl⟩
      · exact ⟨_, ⟨_, failed, rfl⟩, rfl⟩

theorem cellEntries_error (failed : cellEntries entries = .error error) :
    error = .cellsNoMapping := by
  unfold cellEntries at failed
  split at failed <;> cases failed
  rfl

theorem nameEntry_error (failed : nameEntry entries = .error error) : error = .numeralTooLong := by
  unfold nameEntry at failed
  split at failed
  · cases failed
  · split at failed <;> cases failed
    rfl

theorem store_ok {reference : String} {content : Data} {stored : Sheet}
    (kept : sheet.store reference content = .ok stored) : stored.frame = sheet.frame := by
  unfold store at kept
  split at kept
  · cases kept
  · split at kept <;> cases kept
    exact frame_modifyAt ..

theorem store_error {reference : String} {content : Data}
    (failed : sheet.store reference content = .error error) :
    error = .outsideSheet reference sheet.rows sheet.columns ∨ error = .numeralTooLong := by
  unfold store at failed
  split at failed
  · exact .inl (Except.error.inj failed).symm
  · split at failed <;> cases failed
    exact .inr rfl

theorem storeAll_error {cells : Entries}
    (failed : cells.foldlM (fun sheet (reference, content) => sheet.store reference content) sheet =
      .error error) : isLogged error = true := by
  induction cells generalizing sheet with
  | nil => cases failed
  | cons entry cells ih =>
    rw [List.foldlM_cons] at failed
    rcases bind_eq_error.1 failed with first | ⟨next, _, rest⟩
    · rcases store_error first with rfl | rfl <;> rfl
    · exact ih rest

theorem frame_storeAll {cells : Entries} {stored : Sheet}
    (kept : cells.foldlM (fun sheet (reference, content) => sheet.store reference content) sheet =
      .ok stored) : stored.frame = sheet.frame := by
  induction cells generalizing sheet with
  | nil =>
    cases kept
    rfl
  | cons entry cells ih =>
    rw [List.foldlM_cons] at kept
    obtain ⟨next, first, rest⟩ := bind_eq_ok.1 kept
    exact (ih rest).trans (store_ok first)

theorem ofEntries_silent_iff :
    (∃ error, ofEntries entries maxDepth = .error error ∧ isLogged error = false) ↔
      Unsized (.mapping entries) := by
  constructor
  · rintro ⟨error, failed, silent⟩
    rcases bind_eq_error.1 failed with failed | ⟨cells, ordered, failed⟩
    · rw [cellEntries_error failed] at silent
      cases silent
    rcases bind_eq_error.1 failed with failed | ⟨rows, whole, failed⟩
    · obtain ⟨data, found, sizeless⟩ := wholeEntry_silent_iff.1 ⟨error, failed, silent⟩
      exact .rows ordered found sizeless
    rcases bind_eq_error.1 failed with failed | ⟨columns, _, failed⟩
    · obtain ⟨data, found, sizeless⟩ := wholeEntry_silent_iff.1 ⟨error, failed, silent⟩
      exact .columns ordered whole found sizeless
    rcases bind_eq_error.1 failed with failed | ⟨name, _, failed⟩
    · rw [nameEntry_error failed] at silent
      cases silent
    rcases bind_eq_error.1 failed with failed | ⟨start, _, failed⟩
    · unfold make at failed
      split at failed <;> cases failed
      cases silent
    · rw [storeAll_error failed] at silent
      cases silent
  · intro unsized
    cases unsized with
    | rows ordered found sizeless =>
      obtain ⟨error, failed, silent⟩ := wholeEntry_silent_iff.2 ⟨_, found, sizeless⟩
      refine ⟨error, bind_eq_error.2 (.inr ⟨_, ordered, bind_eq_error.2 (.inl ?_)⟩), silent⟩
      exact failed
    | columns ordered whole found sizeless =>
      obtain ⟨error, failed, silent⟩ := wholeEntry_silent_iff.2 ⟨_, found, sizeless⟩
      refine ⟨error, bind_eq_error.2 (.inr ⟨_, ordered, bind_eq_error.2 (.inr ⟨_, whole, ?_⟩)⟩),
        silent⟩
      exact bind_eq_error.2 (.inl failed)

theorem maxDepth_ofEntries (stored : ofEntries entries maxDepth = .ok sheet) :
    sheet.maxDepth = maxDepth := by
  obtain ⟨cells, _, stored⟩ := bind_eq_ok.1 stored
  obtain ⟨rows, _, stored⟩ := bind_eq_ok.1 stored
  obtain ⟨columns, _, stored⟩ := bind_eq_ok.1 stored
  obtain ⟨name, _, stored⟩ := bind_eq_ok.1 stored
  obtain ⟨start, made, stored⟩ := bind_eq_ok.1 stored
  have kept : sheet.maxDepth = start.maxDepth := (congrArg Sheet.maxDepth (frame_storeAll stored) :)
  rw [kept]
  unfold make at made
  split at made <;> cases made
  rfl

end Sizes

section Telling

variable {sheet : Sheet} {position : Position} {entries : Entries} {maxDepth : Int} {event : Event}

theorem mem_eventsAt (member : event ∈ sheet.eventsAt position) :
    ∃ reference text outcome, event = sheet.computedEvent reference text outcome := by
  unfold eventsAt at member
  split at member
  · cases member
  · split at member
    · split at member
      · exact ⟨_, _, _, List.mem_singleton.1 member⟩
      · cases member
    · cases member

theorem recalculate_told (tidy : sheet.Tidy) (positive : 0 < sheet.maxDepth) :
    (∃ count, sheet.recalculate.result = .ok count) ∧
      ∀ event ∈ sheet.recalculate.events,
        event.type ≠ .sheetLoaded ∧ event.attributed = event := by
  rw [recalculate_change tidy positive]
  refine ⟨⟨_, rfl⟩, List.forall_mem_append.2 ⟨fun event member => ?_,
    List.forall_mem_singleton.2 ⟨by simp [recalculatedEvent], attributed_recalculatedEvent ..⟩⟩⟩
  obtain ⟨position, _, inside⟩ := List.mem_flatMap.1 member
  obtain ⟨reference, text, outcome, rfl⟩ := mem_eventsAt inside
  refine ⟨?_, attributed_computedEvent ..⟩
  cases outcome with
  | ok value => simp [computedEvent]
  | error fault =>
    simp only [computedEvent]
    split <;> simp

theorem attributed_loadedEvent (path : Path) (sheet : Sheet) :
    (loadedEvent path sheet).attributed = loadedEvent path sheet := by
  simp [Event.attributed, loadedEvent, EventType.subject, lookup]

theorem attributed_notLoadedEvent (path : Path) (message : String) :
    (notLoadedEvent path message).attributed = notLoadedEvent path message := by
  simp [Event.attributed, notLoadedEvent, EventType.subject, lookup]

end Telling

section Loading

variable {making : Making} {content : Data} {entries : Entries} {maxDepth : Int}
  {error : SheetError}

/-- What comes of a loading is told where no error goes unlogged. -/
theorem tells_logged (path : Path)
    (told : ∀ event ∈ making.events, event.type ≠ .sheetLoaded ∧ event.attributed = event)
    (spoken : ∀ error, making.result = .error error → isLogged error = true) :
    TellsOutcome ((making.logged path).events.map Event.attributed)
      (making.logged path).result := by
  obtain ⟨result, events⟩ := making
  have own : events.map Event.attributed = events :=
    (List.map_congr_left fun event member => (told event member).2).trans (List.map_id events)
  have others : ∀ event ∈ events, event.type ≠ .sheetLoaded := fun event member =>
    (told event member).1
  cases result with
  | ok sheet =>
    refine ⟨events, loadedEvent path sheet, ?_, rfl, others, rfl⟩
    change (events ++ [loadedEvent path sheet]).map Event.attributed = _
    rw [List.map_append, own, List.map_singleton, attributed_loadedEvent]
  | error error =>
    have logged : Making.logged ⟨.error error, events⟩ path =
        ⟨.error error, events ++ [notLoadedEvent path error.message]⟩ := if_pos (spoken error rfl)
    rw [logged]
    refine ⟨events, notLoadedEvent path error.message, ?_, rfl, others, rfl, rfl⟩
    rw [List.map_append, own, List.map_singleton, attributed_notLoadedEvent]

theorem logged_silent (path : Path) (failed : making.result = .error error)
    (silent : isLogged error = false) : making.logged path = making := by
  simp [Making.logged, failed, silent]

theorem not_tellsOutcome_nil (result : Except SheetError Sheet) : ¬ TellsOutcome [] result := by
  rintro ⟨told, outcome, none, _⟩
  exact List.append_ne_nil_of_right_ne_nil told (List.cons_ne_nil outcome []) none.symm

theorem ofData_error (failed : ofEntries entries maxDepth = .error error) :
    ofData (.mapping entries) maxDepth = ⟨.error error, []⟩ := by
  rw [ofData, failed]

theorem ofData_ok (positive : 0 < maxDepth) {stored : Sheet}
    (kept : ofEntries entries maxDepth = .ok stored) :
    (∃ sheet, (ofData (.mapping entries) maxDepth).result = .ok sheet) ∧
      ∀ event ∈ (ofData (.mapping entries) maxDepth).events,
        event.type ≠ .sheetLoaded ∧ event.attributed = event := by
  have depth : 0 < stored.maxDepth := by rwa [maxDepth_ofEntries kept]
  obtain ⟨⟨count, done⟩, told⟩ := recalculate_told (tidy_of_ofEntries kept) depth
  rw [ofData, kept]
  refine ⟨⟨stored.recalculate.sheet, ?_⟩, told⟩
  dsimp only
  rw [done]
  rfl

theorem ofData_tells (path : Path) (positive : 0 < maxDepth)
    (sized : ¬ Unsized (.mapping entries)) :
    let making := (ofData (.mapping entries) maxDepth).logged path
    TellsOutcome (making.events.map Event.attributed) making.result := by
  cases stored : ofEntries entries maxDepth with
  | error error =>
    rw [ofData_error stored]
    refine tells_logged path nofun fun _ same => ?_
    cases same
    exact Bool.of_not_eq_false fun silent => sized (ofEntries_silent_iff.1 ⟨error, stored, silent⟩)
  | ok sheet =>
    obtain ⟨⟨sheet, loaded⟩, told⟩ := ofData_ok positive stored
    exact tells_logged path told fun _ failed => by cases loaded.symm.trans failed

theorem load_unsized (path : Path) (maxDepth : Int) (unsized : Unsized content) :
    ∃ error, load path content maxDepth = ⟨.error error, []⟩ := by
  obtain ⟨entries, rfl⟩ : ∃ entries, content = .mapping entries := by
    cases unsized <;> exact ⟨_, rfl⟩
  obtain ⟨error, failed, silent⟩ := ofEntries_silent_iff.2 unsized
  have making := ofData_error failed
  refine ⟨error, ?_⟩
  rw [load, making]
  exact logged_silent path rfl silent

theorem load_other (path : Path) (maxDepth : Int)
    (other : ∀ entries, content ≠ .mapping entries) :
    load path content maxDepth = Making.logged
      (if content.isTruthy then ⟨.error (.fileNoMapping path.toText), []⟩
        else ofData (.mapping []) maxDepth) path := by
  cases content with
  | mapping entries => exact absurd rfl (other entries)
  | _ => rfl

theorem load_sized (path : Path) (positive : 0 < maxDepth) (sized : ¬ Unsized content) :
    let making := load path content maxDepth
    TellsOutcome (making.events.map Event.attributed) making.result := by
  by_cases mapping : ∃ entries, content = .mapping entries
  · obtain ⟨entries, rfl⟩ := mapping
    exact ofData_tells path positive sized
  · rw [load_other path maxDepth (not_exists.1 mapping)]
    split
    · exact tells_logged path nofun fun _ same => by cases same; rfl
    · refine ofData_tells path positive ?_
      rintro (⟨_, found, _⟩ | ⟨_, _, found, _⟩) <;> cases found

end Loading

/-- Loading tells its outcome, a sheet or an error, once and at last, unless the document is unsized.
Then it fails and tells nothing. -/
theorem load_tells_iff (path : Path) (content : Data) {maxDepth : Int} (positive : 0 < maxDepth) :
    let making := load path content maxDepth
    let logged := making.events.map Event.attributed
    (TellsOutcome logged making.result ↔ ¬ Unsized content) ∧
      (Unsized content → (∃ error, making.result = .error error) ∧ logged = []) := by
  intro making logged
  by_cases unsized : Unsized content
  · obtain ⟨error, hollow⟩ := load_unsized path maxDepth unsized
    have nothing : logged = [] := congrArg (fun making => making.events.map Event.attributed) hollow
    rw [nothing]
    exact ⟨iff_of_false (not_tellsOutcome_nil _) (not_not_intro unsized),
      fun _ => ⟨⟨error, congrArg Making.result hollow⟩, rfl⟩⟩
  · exact ⟨iff_of_true (load_sized path positive unsized) unsized, fun hollow => absurd hollow unsized⟩

theorem load_tells_rows :
    let path : Path := ⟨"", ["sheet.yaml"]⟩
    let logged (content : Data) := (load path content 64).events.map Event.attributed
    TellsOutcome (logged (.mapping [("rows", .integer 2)]))
        (load path (.mapping [("rows", .integer 2)]) 64).result ∧
      logged (.mapping [("rows", .null)]) = [] := by
  intro path logged
  have sized : ¬ Unsized (.mapping [("rows", .integer 2)]) := by
    rintro (⟨_, found, sizeless⟩ | ⟨_, _, found, _⟩)
    · cases found
      cases sizeless
    · cases found
  have unsized : Unsized (.mapping [("rows", .null)]) := .rows rfl rfl .null
  exact ⟨(load_tells_iff path _ (by decide)).1.2 sized, ((load_tells_iff path _ (by decide)).2 unsized).2⟩

/-- Where the number of rows is left open, loading fails and does not tell. -/
theorem load_open_rows_untold :
    ¬ ∀ (path : Path) (content : Data) (maxDepth : Int), 0 < maxDepth →
      let making := load path content maxDepth
      TellsOutcome (making.events.map Event.attributed) making.result := by
  intro told
  exact not_tellsOutcome_nil _ (told ⟨"", ["sheet.yaml"]⟩ (.mapping [("rows", .null)]) 64 (by decide))

end FormulaGrid.Sheet

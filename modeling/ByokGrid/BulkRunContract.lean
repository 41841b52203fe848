import ByokGrid.BulkAccounting
import ByokGrid.BulkRunSelection
import ByokGrid.CellRunContract

/-! The contract of bulk runs: their counters in every state reached, and the rows
a confirmed run takes. -/

namespace ByokGrid

section Separated

variable {α : Type} {separator : α}

theorem split_at_separator {xs xs' ys ys' : List α} (hx : separator ∉ xs) (hx' : separator ∉ xs')
    (hy : ys.head? = none ∨ ys.head? = some separator) (hy' : ys'.head? = none ∨ ys'.head? = some separator)
    (h : xs ++ ys = xs' ++ ys') : xs = xs' ∧ ys = ys' := by
  induction xs generalizing xs' with
  | nil =>
    cases xs' with
    | nil => exact ⟨rfl, h⟩
    | cons x xs' =>
      rw [List.nil_append] at h
      subst h
      rcases hy with hnone | hsome
      · cases hnone
      · cases hsome
        exact absurd List.mem_cons_self hx'
  | cons x xs ih =>
    cases xs' with
    | nil =>
      rw [List.nil_append] at h
      subst h
      rcases hy' with hnone | hsome
      · cases hnone
      · cases hsome
        exact absurd List.mem_cons_self hx
    | cons x' xs' =>
      obtain ⟨rfl, htail⟩ := List.cons.inj h
      obtain ⟨rfl, hrest⟩ := ih (fun hin => hx (List.mem_cons_of_mem _ hin)) (fun hin => hx' (List.mem_cons_of_mem _ hin))
        htail
      exact ⟨rfl, hrest⟩

theorem head_separated (parts : List (List α)) :
    (parts.flatMap (separator :: ·)).head? = none ∨ (parts.flatMap (separator :: ·)).head? = some separator := by
  cases parts with
  | nil => exact Or.inl rfl
  | cons part parts => exact Or.inr rfl

theorem separated_injective {header header' : List α} {parts parts' : List (List α)} (hheader : separator ∉ header)
    (hheader' : separator ∉ header') (hparts : ∀ part ∈ parts, separator ∉ part)
    (hparts' : ∀ part ∈ parts', separator ∉ part)
    (h : header ++ parts.flatMap (separator :: ·) = header' ++ parts'.flatMap (separator :: ·)) :
    header = header' ∧ parts = parts' := by
  obtain ⟨rfl, hrest⟩ := split_at_separator hheader hheader' (head_separated parts) (head_separated parts') h
  refine ⟨rfl, ?_⟩
  clear h hheader hheader'
  induction parts generalizing parts' with
  | nil =>
    cases parts' with
    | nil => rfl
    | cons part' parts' => cases hrest
  | cons part parts ih =>
    cases parts' with
    | nil => cases hrest
    | cons part' parts' =>
      rw [List.flatMap_cons, List.flatMap_cons, List.cons_append, List.cons_append, List.cons.injEq] at hrest
      obtain ⟨rfl, hlater⟩ := split_at_separator (hparts part List.mem_cons_self) (hparts' part' List.mem_cons_self)
        (head_separated parts) (head_separated parts') hrest.2
      rw [ih (fun p hp => hparts p (List.mem_cons_of_mem _ hp)) (fun p hp => hparts' p (List.mem_cons_of_mem _ hp)) hlater]

end Separated

/-- No number is written with a null character. -/
class PlainNumbers (ν : Type) [JsRuntime ν] : Prop where
  numberToString_plain : ∀ n : ν, '\x00' ∉ (JsRuntime.numberToString n).toList

section Text

theorem hexDigit_ne_null {n : Nat} (h : n < 16) : hexDigit n ≠ '\x00' := by
  revert n
  decide

theorem jsonEscape_plain (c : Char) : '\x00' ∉ jsonEscape c := by
  intro hin
  unfold jsonEscape at hin
  split at hin
  all_goals try exact absurd hin (by decide)
  split at hin
  · have hhigh := hexDigit_ne_null (n := c.toNat / 16) (by omega)
    have hlow := hexDigit_ne_null (n := c.toNat % 16) (by omega)
    simp [hhigh.symm, hlow.symm] at hin
  · rename_i hvisible
    rw [List.mem_singleton] at hin
    subst hin
    exact hvisible (by decide)

theorem jsonQuote_plain (s : String) : '\x00' ∉ (jsonQuote s).toList := by
  simp only [jsonQuote, String.toList_ofList, List.mem_append, List.mem_cons, List.mem_flatMap, List.not_mem_nil,
    or_false]
  rintro ((hquote | ⟨c, _, hc⟩) | hquote)
  · cases hquote
  · exact jsonEscape_plain c hc
  · cases hquote

theorem intercalate_plain {s : String} (hseparator : '\x00' ∉ s.toList) {parts : List String}
    (hparts : ∀ part ∈ parts, '\x00' ∉ part.toList) : '\x00' ∉ (s.intercalate parts).toList := by
  induction parts with
  | nil => simp
  | cons part parts ih =>
    cases parts with
    | nil => simpa using hparts part List.mem_cons_self
    | cons next parts =>
      have hrest := ih fun p hp => hparts p (List.mem_cons_of_mem _ hp)
      simp only [String.intercalate_cons_cons, String.toList_append, List.mem_append]
      rintro ((hpart | hsep) | hlater)
      · exact hparts part List.mem_cons_self hpart
      · exact hseparator hsep
      · exact hrest hlater

mutual

theorem stringify_plain {ν : Type} [JsRuntime ν] [PlainNumbers ν] : ∀ value : Json ν, '\x00' ∉ value.stringify.toList
  | .null => (by decide : '\x00' ∉ "null".toList)
  | .boolean true => (by decide : '\x00' ∉ "true".toList)
  | .boolean false => (by decide : '\x00' ∉ "false".toList)
  | .number value => PlainNumbers.numberToString_plain value
  | .string value => jsonQuote_plain value
  | .array items => by
    have hitems := intercalate_plain (s := ",") (by decide) (stringifyItems_plain items)
    simp only [Json.stringify, String.toList_append, List.mem_append]
    rintro ((hopen | hin) | hclose)
    · exact absurd hopen (by decide)
    · exact hitems hin
    · exact absurd hclose (by decide)
  | .object fields => by
    have hfields := intercalate_plain (s := ",") (by decide) (stringifyFields_plain fields)
    simp only [Json.stringify, String.toList_append, List.mem_append]
    rintro ((hopen | hin) | hclose)
    · exact absurd hopen (by decide)
    · exact hfields hin
    · exact absurd hclose (by decide)

theorem stringifyItems_plain {ν : Type} [JsRuntime ν] [PlainNumbers ν] :
    ∀ items : List (Json ν), ∀ text ∈ Json.stringifyItems items, '\x00' ∉ text.toList
  | [] => nofun
  | item :: items => by
    intro text htext
    rcases List.mem_cons.mp htext with rfl | hlater
    · exact stringify_plain item
    · exact stringifyItems_plain items text hlater

theorem stringifyFields_plain {ν : Type} [JsRuntime ν] [PlainNumbers ν] :
    ∀ fields : List (String × Json ν), ∀ text ∈ Json.stringifyFields fields, '\x00' ∉ text.toList
  | [] => nofun
  | (key, value) :: fields => by
    intro text htext
    rcases List.mem_cons.mp htext with rfl | hlater
    · simp only [String.toList_append, List.mem_append]
      rintro ((hkey | hcolon) | hvalue)
      · exact jsonQuote_plain key hkey
      · exact absurd hcolon (by decide)
      · exact stringify_plain value hvalue
    · exact stringifyFields_plain fields text hlater

end

variable {ν : Type} [JsRuntime ν]

theorem selectionText_toList (selection : BulkRunSelectionSnapshot ν) (rowIds : List String) :
    (selectionText selection rowIds).toList = "byok-grid:bulk-run-selection:v1\x00".toList ++
      (selection.toJson.stringify.toList ++ (rowIds.map String.toList).flatMap ('\x00' :: ·)) := by
  unfold selectionText
  generalize "byok-grid:bulk-run-selection:v1\x00" = header
  simp [String.toList_append, List.flatMap_map]

theorem selectionText_injective [PlainNumbers ν] {selection selection' : BulkRunSelectionSnapshot ν} {rowIds rowIds' : List String}
    (hids : ∀ id ∈ rowIds, '\x00' ∉ id.toList) (hids' : ∀ id ∈ rowIds', '\x00' ∉ id.toList)
    (h : selectionText selection rowIds = selectionText selection' rowIds') :
    selection.toJson.stringify = selection'.toJson.stringify ∧ rowIds = rowIds' := by
  have hlist := congrArg String.toList h
  rw [selectionText_toList, selectionText_toList] at hlist
  obtain ⟨hsnapshot, hrows⟩ := separated_injective (stringify_plain _) (stringify_plain _)
    (List.forall_mem_map.mpr hids) (List.forall_mem_map.mpr hids') (List.append_cancel_left hlist)
  exact ⟨String.toList_inj.mp hsnapshot, List.map_injective_iff.mpr (fun _ _ heq => String.toList_inj.mp heq) hrows⟩

end Text

section Confirm

variable {ν : Type} [JsRuntime ν] [StoredNumbers ν] [CountNumbers ν] [ConnectorRuntime ν]

theorem computeBulkRunPreview_digest {store : GridStore ν} {input : BulkRunRequest} {preview : BulkRunPreview ν}
    {rows : List Row} (h : computeBulkRunPreview store input = .ok (preview, rows)) :
    preview.selectedRows = rows.length ∧
      preview.selectionDigest = digestBulkRunSelection preview.selection (rows.map Row.id) := by
  simp only [computeBulkRunPreview, except_bind_eq_ok, pure, Except.pure, Except.ok.injEq, Prod.mk.injEq] at h
  obtain ⟨plan, _, selection, _, rfl, rfl⟩ := h
  exact ⟨rfl, rfl⟩

theorem computeBulkRunPreview_rows {store : GridStore ν} {input : BulkRunRequest} {preview : BulkRunPreview ν}
    {rows : List Row} (h : computeBulkRunPreview store input = .ok (preview, rows)) :
    ∀ row ∈ rows, row ∈ store.db.grid.rows := by
  simp only [computeBulkRunPreview, except_bind_eq_ok, pure, Except.pure, Except.ok.injEq, Prod.mk.injEq] at h
  obtain ⟨plan, _, selection, _, _, rfl⟩ := h
  intro row hrow
  have hselected := store.mem_orderRows.mp (List.mem_of_mem_take hrow)
  exact (List.mem_filter.mp (List.mem_filter.mp (List.mem_filter.mp hselected).1).1).1

theorem confirm_eq_ok {store : GridStore ν} {input : ConfirmBulkRun} {db' : Database ν}
    (h : confirmBulkRunBatch store input = .ok db') :
    ∃ preview rows, computeBulkRunPreview store input.request = .ok (preview, rows) ∧
      (preview.selectedRows : Int) = input.expectedSelectedRows ∧
      preview.selectionDigest = input.expectedSelectionDigest ∧
      createSqliteBulkRunBatch store.db (input.batch rows) = .ok db' := by
  simp only [confirmBulkRunBatch, except_bind_eq_ok, requireThat_eq_ok, Bool.and_eq_true, decide_eq_true_eq] at h
  obtain ⟨_, _, _, _, ⟨preview, rows⟩, hcompute, _, ⟨hcount, hdigest⟩, _, _, h⟩ := h
  refine ⟨preview, rows, hcompute, hcount, hdigest, ?_⟩
  split at h
  · cases h
  · exact h

end Confirm

section Contract

variable {ν : Type} [JsRuntime ν] [ConnectorRuntime ν]

inductive BulkRunAction (ν : Type) where
  | cellRun (action : CellRunAction ν)
  | other (change : Database ν → Database ν) (same : ∀ db, SameBulk db (change db))

def Database.stepBulkRun (db : Database ν) : BulkRunAction ν → Database ν
  | .cellRun action => db.stepCellRun action
  | .other change _ => change db

theorem BulkInvariant.stepBulkRun {db : Database ν} (h : BulkInvariant db) (action : BulkRunAction ν) :
    BulkInvariant (db.stepBulkRun action) ∧ EndedKept db (db.stepBulkRun action) := by
  cases action with
  | cellRun action => exact h.step action
  | other change same => exact ⟨h.same (same db), (same db).endedKept⟩

omit [JsRuntime ν] [ConnectorRuntime ν] in
theorem EndedKept.trans {a b c : Database ν} (hab : EndedKept a b) (hbc : EndedKept b c) : EndedKept a c := by
  intro batch hbatch hended
  obtain ⟨hin, hitems⟩ := hab batch hbatch hended
  obtain ⟨hin', hitems'⟩ := hbc batch hin hended
  exact ⟨hin', hitems'.trans hitems⟩

theorem BulkInvariant.run {db : Database ν} (h : BulkInvariant db) (actions : List (BulkRunAction ν)) :
    BulkInvariant (runActions Database.stepBulkRun db actions) ∧
      EndedKept db (runActions Database.stepBulkRun db actions) := by
  induction actions generalizing db with
  | nil => exact ⟨h, (SameBulk.refl db).endedKept⟩
  | cons action actions ih =>
    obtain ⟨hstep, hkept⟩ := h.stepBulkRun action
    obtain ⟨hrun, hlater⟩ := ih hstep
    exact ⟨hrun, hkept.trans hlater⟩

structure FreshBulkRuns (db : Database ν) : Prop where
  batches : db.bulkRunBatches.records = []
  items : db.bulkRunItems.records = []

omit [JsRuntime ν] [ConnectorRuntime ν] in
theorem FreshBulkRuns.invariant {db : Database ν} (h : FreshBulkRuns db) : BulkInvariant db := by
  refine ⟨fun batch hbatch => ?_, fun item hitem => ?_⟩
  · rw [Table.mem_def, h.batches] at hbatch
    cases hbatch
  · rw [Table.mem_def, h.items] at hitem
    cases hitem

structure BulkRunCounts (db : Database ν) (batch : BulkRunBatch) : Prop where
  selected : batch.selectedRowCount = itemsWith .pending (db.batchItems batch.id) +
    itemsWith .queued (db.batchItems batch.id) + itemsWith .skipped (db.batchItems batch.id)
  queued : batch.queuedRowCount = itemsWith .queued (db.batchItems batch.id)
  skipped : batch.skippedRowCount = itemsWith .skipped (db.batchItems batch.id)
  completed : batch.status ≠ .cancelled →
    (batch.status = .completed ↔ itemsWith .pending (db.batchItems batch.id) = 0)
  cancelled : batch.status = .cancelled → itemsWith .pending (db.batchItems batch.id) = 0

omit [JsRuntime ν] [ConnectorRuntime ν] in
theorem BatchAccount.counts {db : Database ν} {batch : BulkRunBatch} (h : BatchAccount db batch) :
    BulkRunCounts db batch := by
  refine ⟨h.selected.trans (itemsWith_total _), h.queued, h.skipped, fun hopen => ?_, fun hcancelled => ?_⟩
  · rw [← h.ended]
    have hfailed := h.notFailed
    cases hstatus : batch.status with
    | completed => exact ⟨fun _ => rfl, fun _ => rfl⟩
    | queued => exact ⟨nofun, nofun⟩
    | running => exact ⟨nofun, nofun⟩
    | failed => exact absurd hstatus hfailed
    | cancelled => exact absurd hstatus hopen
  · refine h.ended.mp ?_
    rw [hcancelled]
    rfl

def DigestSeparates (ν : Type) [ConnectorRuntime ν] (left right : String) : Prop :=
  ConnectorRuntime.sha256 ν left = ConnectorRuntime.sha256 ν right → left = right

def PlainRowIds (grid : Grid ν) : Prop :=
  ∀ row ∈ grid.rows, '\x00' ∉ row.id.toList

variable [StoredNumbers ν] [CountNumbers ν]

/-- The rows of a created run are those which the preview with the confirmed digest showed, in its order. -/
structure ConfirmedRows (store : GridStore ν) (input : ConfirmBulkRun) (created : Database ν)
    (current : BulkRunPreview ν) (rows : List Row) : Prop where
  computed : computeBulkRunPreview store input.request = .ok (current, rows)
  count : (rows.length : Int) = input.expectedSelectedRows
  digest : current.selectionDigest = input.expectedSelectionDigest
  items : created.batchItems input.batchId = rows.zipIdx.map fun row =>
    { batchId := input.batchId, rowId := row.1.id, sequence := row.2 }
  previewed : ∀ (earlier : GridStore ν) (request : BulkRunRequest) (preview : BulkRunPreview ν) (shown : List Row),
    computeBulkRunPreview earlier request = .ok (preview, shown) →
    preview.selectionDigest = input.expectedSelectionDigest →
    PlainRowIds earlier.db.grid → PlainRowIds store.db.grid →
    DigestSeparates ν (selectionText preview.selection (shown.map Row.id))
      (selectionText current.selection (rows.map Row.id)) →
    shown.map Row.id = rows.map Row.id

structure BulkRunContract (start : Database ν) (actions : List (BulkRunAction ν)) : Prop where
  counts : ∀ batch ∈ (runActions Database.stepBulkRun start actions).bulkRunBatches,
    BulkRunCounts (runActions Database.stepBulkRun start actions) batch
  cancelled : ∀ earlier later, actions = earlier ++ later →
    ∀ batch ∈ (runActions Database.stepBulkRun start earlier).bulkRunBatches, batch.status = .cancelled →
      (runActions Database.stepBulkRun start actions).batchItems batch.id =
        (runActions Database.stepBulkRun start earlier).batchItems batch.id
  rejected : ∀ (store : GridStore ν) (input : ConfirmBulkRun) (error : StoreError),
    confirmBulkRunBatch store input = .error error → store.db.commit (confirmBulkRunBatch store input) = store.db
  confirmed : ∀ (store : GridStore ν) (input : ConfirmBulkRun) (created : Database ν),
    store.db = runActions Database.stepBulkRun start actions → confirmBulkRunBatch store input = .ok created →
    ∃ current rows, ConfirmedRows store input created current rows

theorem confirm_created [PlainNumbers ν] {store : GridStore ν} (h : BulkInvariant store.db) {input : ConfirmBulkRun}
    {created : Database ν} (hok : confirmBulkRunBatch store input = .ok created) :
    ∃ current rows, ConfirmedRows store input created current rows := by
  obtain ⟨current, rows, hcompute, hcount, hdigest, hcreate⟩ := confirm_eq_ok hok
  obtain ⟨hlength, hdigestEq⟩ := computeBulkRunPreview_digest hcompute
  refine ⟨current, rows, hcompute, ?_, hdigest, ?_, ?_⟩
  · rw [← hcount, hlength]
  · exact (h.create_items hcreate).1.trans (by rw [ConfirmBulkRun.batch, List.zipIdx_map, List.map_map]; rfl)
  · intro earlier request preview shown hpreview hsame hplain hplain' hseparates
    obtain ⟨_, hshown⟩ := computeBulkRunPreview_digest hpreview
    have htexts := hseparates (hshown.symm.trans (hsame.trans (hdigest.symm.trans hdigestEq)))
    refine (selectionText_injective (fun id hid => ?_) (fun id hid => ?_) htexts).2
    · obtain ⟨row, hrow, rfl⟩ := List.mem_map.mp hid
      exact hplain row (computeBulkRunPreview_rows hpreview row hrow)
    · obtain ⟨row, hrow, rfl⟩ := List.mem_map.mp hid
      exact hplain' row (computeBulkRunPreview_rows hcompute row hrow)

/-- In every state reached the counters count the items, a cancelled run keeps its items, and a confirmed
run takes the rows of its preview. -/
theorem bulkRunContract [PlainNumbers ν] {start : Database ν} (hfresh : FreshBulkRuns start)
    (actions : List (BulkRunAction ν)) : BulkRunContract start actions := by
  obtain ⟨hinvariant, _⟩ := hfresh.invariant.run actions
  refine ⟨fun batch hbatch => (hinvariant.account batch hbatch).counts, ?_, ?_, ?_⟩
  · intro earlier later hactions batch hbatch hcancelled
    obtain ⟨hearlier, _⟩ := hfresh.invariant.run earlier
    obtain ⟨_, hkept⟩ := hearlier.run later
    rw [hactions, runActions_append]
    exact (hkept batch hbatch (by rw [hcancelled]; rfl)).2
  · intro store input error herror
    rw [herror]
    rfl
  · intro store input created hstore hok
    refine confirm_created ?_ hok
    rw [hstore]
    exact hinvariant

end Contract

section Sample

instance : StoredNumbers SafeInteger where
  rank n := n
  compareNumber_rank _ _ := rfl
  numberText n := (n.map fun value => toString value ++ ".0").getD ""
  timeText t := some t.write

instance : CountNumbers SafeInteger := ⟨SafeInteger.ofInt⟩

theorem digits_plain (n : Nat) : '\x00' ∉ (Nat.repr n).toList := by
  intro hin
  have hdigit := Nat.isDigit_of_mem_toDigits (by decide) (by decide) (by simpa using hin : '\x00' ∈ Nat.toDigits 10 n)
  exact absurd hdigit (by decide)

instance : PlainNumbers SafeInteger where
  numberToString_plain n := by
    cases n with
    | none => exact (by decide : '\x00' ∉ "NaN".toList)
    | some n =>
      cases n with
      | ofNat n => exact digits_plain n
      | negSucc n =>
        show '\x00' ∉ ("-" ++ Nat.repr (n + 1)).toList
        rw [String.toList_append, List.mem_append]
        rintro (hsign | hdigits)
        · exact absurd hsign (by decide)
        · exact digits_plain (n + 1) hdigits

def greetingMembers : Database SafeInteger :=
  { greetingDatabase with workspaceMembers := Table.singleton { userId := "alan", role := .owner } }

def greetingBatch : CreateBulkRunBatch where
  batchId := "batch"
  columnId := "greeting"
  tableId := "people"
  userId := "alan"
  mode := .pending
  selectedRowIds := ["ada"]
  eventId := "batch-event"
  now := 1

theorem bulkRunContract_greetings : BulkRunContract greetingMembers
    [.cellRun (.createBatch greetingBatch),
      .cellRun (.expandBatch { batchId := "batch", stamps := fun _ => ⟨"run", "event"⟩, now := 2 }),
      .cellRun (.cancelBatch { batchId := "batch", tableId := "people", userId := "alan", now := 3 })] :=
  bulkRunContract ⟨rfl, rfl⟩ _

/-- A run which is cancelled has no pending item, and is not completed. -/
theorem cancelledRun_not_completed : ∃ batch ∈ (runActions Database.stepBulkRun greetingMembers
      [.cellRun (.createBatch greetingBatch),
        .cellRun (.cancelBatch { batchId := "batch", tableId := "people", userId := "alan", now := 2 })]).bulkRunBatches,
    batch.status = .cancelled ∧ ¬ (batch.status = .completed ↔ itemsWith .pending
      ((runActions Database.stepBulkRun greetingMembers [.cellRun (.createBatch greetingBatch),
        .cellRun (.cancelBatch { batchId := "batch", tableId := "people", userId := "alan", now := 2 })]).batchItems
          batch.id) = 0) := by
  refine ⟨_, List.mem_singleton.mpr rfl, rfl, fun hiff => ?_⟩
  have hcompleted := hiff.mpr rfl
  cases hcompleted

end Sample

end ByokGrid

import ByokGrid.EnvelopeSeparation
import ByokGrid.MasterKeyRotation
import Mathlib.Algebra.GroupWithZero.Nat

/-! Rotation keeps every workspace key, and its batches use up what is pending. -/

namespace ByokGrid

section Keys

variable [CipherRuntime]

/-- The cipher gives back what it was given under the same key, nonce and associated data. A ciphertext
is as long as its plaintext, and a tag has 16 bytes. -/
structure RoundTripCipher : Prop where
  opens : ∀ key nonce context plaintext,
    CipherRuntime.decrypt key nonce context (CipherRuntime.encrypt key nonce context plaintext) = some plaintext
  size : ∀ key nonce context plaintext, (CipherRuntime.encrypt key nonce context plaintext).1.length = plaintext.length ∧
    (CipherRuntime.encrypt key nonce context plaintext).2.length = 16

theorem RoundTripCipher.opened (hcipher : RoundTripCipher) (key : CryptoKey) (nonce : CipherNonce) (context : String)
    {plaintext : List UInt8} {keyId : String} (hplaintext : plaintext ≠ []) (hkeyId : keyId ≠ "") :
    openEnvelope key (sealEnvelope key nonce plaintext context keyId) context = .ok plaintext := by
  obtain ⟨hciphertext, htag⟩ := hcipher.size key nonce.bytes (contextBytes context) plaintext
  have hfull : ∀ bytes : List UInt8, bytes.length ≠ 0 → encodeBase64 bytes ≠ "" := by
    intro bytes hlength
    exact encodeBase64_ne_empty fun hempty => hlength (congrArg List.length hempty)
  have hnonce := nonce.length
  rw [openEnvelope_eq_ok, sealEnvelope]
  simp only [decodeBase64Url_encodeBase64]
  refine ⟨?_, nonce.length, hcipher.opens key nonce.bytes (contextBytes context) plaintext⟩
  have hciphertext' := hfull (CipherRuntime.encrypt key nonce.bytes (contextBytes context) plaintext).1
    (by rw [hciphertext]; exact fun h => hplaintext (List.length_eq_zero_iff.mp h))
  have htag' := hfull (CipherRuntime.encrypt key nonce.bytes (contextBytes context) plaintext).2 (by rw [htag]; decide)
  have hnonce' := hfull nonce.bytes (by rw [hnonce]; decide)
  simp [CryptoEnvelope.accepted, hciphertext', htag', hnonce', hkeyId]

variable {masterKeys : MasterKeyRing}

structure WrappedRow (masterKeys : MasterKeyRing) (row : WorkspaceKey) : Prop where
  identified : row.keyId = row.wrappedKey.keyId
  unwraps : ∃ key, unwrapWorkspaceKeyFromRing row.workspaceId row.wrappedKey masterKeys = .ok key

omit [CipherRuntime] in
theorem masterKeyForEnvelope_eq_ok {envelope : CryptoEnvelope} {masterKey : MasterKey} :
    masterKeyForEnvelope envelope masterKeys = .ok masterKey ↔
      envelope.accepted = true ∧ masterKeys.keys.get? envelope.keyId = some masterKey := by
  unfold masterKeyForEnvelope
  cases haccepted : envelope.accepted with
  | false => simp
  | true => cases hfound : masterKeys.keys.get? envelope.keyId <;> simp

theorem unwrapWorkspaceKey_eq_ok {workspaceId : String} {envelope : CryptoEnvelope} {masterKey : MasterKey} {key : CryptoKey} :
    unwrapWorkspaceKey workspaceId envelope masterKey = .ok key ↔ envelope.keyId = masterKey.id ∧ key.length = KEY_BYTES ∧
      openEnvelope masterKey.value envelope (workspaceKeyContext workspaceId) = .ok key := by
  constructor
  · intro h
    unfold unwrapWorkspaceKey at h
    split at h
    · cases h
    · rename_i hid
      obtain ⟨opened, hopen, h⟩ := except_bind_eq_ok.mp h
      split at h
      · cases h
      · rename_i hlength
        cases h
        exact ⟨not_not.mp hid, not_not.mp hlength, hopen⟩
  · intro ⟨hid, hlength, hopen⟩
    exact unwrapWorkspaceKey_sealed hid hlength hopen

theorem unwrapWorkspaceKeyFromRing_sealed (hcipher : RoundTripCipher) (workspaceId : String) (nonce : CipherNonce)
    {key : CryptoKey} {masterKey : MasterKey} (hlength : key.length = KEY_BYTES)
    (hknown : masterKeys.keys.get? masterKey.id = some masterKey) :
    unwrapWorkspaceKeyFromRing workspaceId
      (sealEnvelope masterKey.value nonce key (workspaceKeyContext workspaceId) masterKey.id) masterKeys = .ok key := by
  have hkey : key ≠ [] := by
    intro hempty
    rw [hempty] at hlength
    cases hlength
  have hopen := hcipher.opened masterKey.value nonce (workspaceKeyContext workspaceId) hkey masterKey.named
  have hfound : masterKeyForEnvelope (sealEnvelope masterKey.value nonce key (workspaceKeyContext workspaceId) masterKey.id)
      masterKeys = .ok masterKey :=
    masterKeyForEnvelope_eq_ok.mpr ⟨(openEnvelope_eq_ok.mp hopen).1, hknown⟩
  rw [unwrapWorkspaceKeyFromRing, hfound]
  exact unwrapWorkspaceKey_sealed rfl hlength hopen

theorem rewrapWorkspaceKey_spec (hcipher : RoundTripCipher) (nonce : CipherNonce) {workspaceId : String}
    {envelope : CryptoEnvelope} {key : CryptoKey} (h : unwrapWorkspaceKeyFromRing workspaceId envelope masterKeys = .ok key) :
    ∃ wrappedKey, rewrapWorkspaceKey workspaceId envelope masterKeys nonce = .ok wrappedKey ∧
      wrappedKey.keyId = masterKeys.current.id ∧
      unwrapWorkspaceKeyFromRing workspaceId wrappedKey masterKeys = .ok key := by
  have hlength : key.length = KEY_BYTES := by
    obtain ⟨masterKey, _, hunwrap⟩ := except_bind_eq_ok.mp h
    exact (unwrapWorkspaceKey_eq_ok.mp hunwrap).2.1
  have hunwraps := unwrapWorkspaceKeyFromRing_sealed hcipher workspaceId nonce hlength masterKeys.contains
  refine ⟨_, ?_, rfl, hunwraps⟩
  rw [rewrapWorkspaceKey, h]
  show wrapWorkspaceKey workspaceId key masterKeys.current nonce = _
  rw [wrapWorkspaceKey, (assertWorkspaceKey_eq_ok (u := ())).mpr hlength]
  rfl

variable {workspaceKeys : Table WorkspaceKey}

inductive CursorAfter : List WorkspaceKey → Option String → Prop where
  | start : CursorAfter [] none
  | row {before : List WorkspaceKey} {last : WorkspaceKey} (hnamed : last.workspaceId ≠ "") :
      CursorAfter (before ++ [last]) (some last.workspaceId)

omit [CipherRuntime] in
theorem inspectionPage_after {before after : List WorkspaceKey} {cursor : Option String}
    (hrows : orderedBy WorkspaceKey.workspaceId workspaceKeys.records = before ++ after) (hcursor : CursorAfter before cursor) :
    inspectionPage workspaceKeys cursor = after.take INSPECTION_BATCH_SIZE := by
  have hsorted := orderedBy_sorted workspaceKeys.nodup
  have hfilter : ((orderedBy WorkspaceKey.workspaceId workspaceKeys.records).filter fun row =>
      afterCursor cursor row.workspaceId) = after := by
    cases hcursor with
    | start =>
      rw [hrows, List.nil_append]
      exact List.filter_eq_self.mpr fun _ _ => rfl
    | @row before last hnamed =>
      change (orderedBy WorkspaceKey.workspaceId workspaceKeys.records).Pairwise _ at hsorted
      rw [List.append_assoc, List.singleton_append] at hrows
      rw [hrows] at hsorted ⊢
      refine filter_after (r := fun x y => x.workspaceId < y.workspaceId) (fun _ _ h => lt_asymm h) hsorted fun row _ => ?_
      simp [afterCursor, hnamed]
  rw [inspectionPage, hfilter]

omit [CipherRuntime] in
theorem last_named {rows : List WorkspaceKey} {last : WorkspaceKey}
    (hsorted : (rows ++ [last]).Pairwise fun x y => x.workspaceId < y.workspaceId) (hrows : rows ≠ []) :
    last.workspaceId ≠ "" := by
  intro hempty
  obtain ⟨first, hfirst⟩ := List.exists_mem_of_ne_nil _ hrows
  have hlt := (List.pairwise_append.mp hsorted).2.2 first hfirst last (List.mem_singleton_self last)
  rw [hempty] at hlt
  exact List.not_lt_nil _ (String.lt_iff_toList_lt.mp hlt)

theorem inspectPages_eq {pages : Nat} {before after : List WorkspaceKey} {cursor : Option String}
    (hrows : orderedBy WorkspaceKey.workspaceId workspaceKeys.records = before ++ after) (hcursor : CursorAfter before cursor)
    (hpages : after.length < pages) (inspection : MasterKeyRotationInspection) :
    inspectPages workspaceKeys masterKeys pages cursor inspection =
      after.foldlM (inspectWorkspaceKey masterKeys) inspection := by
  induction pages generalizing before after cursor inspection with
  | zero => omega
  | succ pages ih =>
    rw [inspectPages, inspectionPage_after hrows hcursor]
    by_cases hshort : after.length < INSPECTION_BATCH_SIZE
    · rw [List.take_of_length_le (Nat.le_of_lt hshort)]
      simp only [hshort, ↓reduceIte, bind_pure]
    · have hsize : INSPECTION_BATCH_SIZE = 500 := rfl
      have hlength : (after.take INSPECTION_BATCH_SIZE).length = 500 := by
        rw [List.length_take]
        omega
      have hlong : ¬ (after.take INSPECTION_BATCH_SIZE).length < INSPECTION_BATCH_SIZE := by omega
      obtain ⟨init, last, hinit⟩ := List.eq_nil_or_concat' (after.take INSPECTION_BATCH_SIZE) |>.resolve_left fun hnil => by
        rw [hnil] at hlength
        cases hlength
      have hnamed : last.workspaceId ≠ "" := by
        have hsorted := orderedBy_sorted workspaceKeys.nodup
        change (orderedBy WorkspaceKey.workspaceId workspaceKeys.records).Pairwise _ at hsorted
        rw [hrows, ← List.take_append_drop INSPECTION_BATCH_SIZE after, hinit] at hsorted
        have hpage := (List.pairwise_append.mp (List.pairwise_append.mp hsorted).2.1).1
        rw [hinit, List.length_append, List.length_singleton] at hlength
        exact last_named hpage (List.ne_nil_of_length_pos (by omega))
      have hnext := @ih (before ++ after.take INSPECTION_BATCH_SIZE) (after.drop INSPECTION_BATCH_SIZE) (some last.workspaceId)
        (by rw [hrows, List.append_assoc, List.take_append_drop])
        (by rw [hinit, ← List.append_assoc]; exact .row hnamed)
        (by rw [List.length_drop]; omega)
      conv_rhs => rw [← List.take_append_drop INSPECTION_BATCH_SIZE after, List.foldlM_append]
      have hlast : (after.take INSPECTION_BATCH_SIZE).getLast? = some last := by
        rw [hinit, List.getLast?_concat]
      simp only [hlong, ↓reduceIte, hlast, Option.map_some, hnext]

def pendingKeys (masterKeys : MasterKeyRing) (workspaceKeys : Table WorkspaceKey) : Nat :=
  (workspaceKeys.records.filter (underOtherKey masterKeys)).length

theorem foldlM_inspectWorkspaceKey {rows : List WorkspaceKey} (h : ∀ row ∈ rows, WrappedRow masterKeys row)
    (inspection : MasterKeyRotationInspection) :
    rows.foldlM (inspectWorkspaceKey masterKeys) inspection =
      .ok { pending := inspection.pending + (rows.filter (underOtherKey masterKeys)).length
            total := inspection.total + rows.length } := by
  induction rows generalizing inspection with
  | nil => rfl
  | cons row rows ih =>
    obtain ⟨hidentified, key, hkey⟩ := h row List.mem_cons_self
    have hrow : inspectWorkspaceKey masterKeys inspection row =
        .ok { pending := if row.keyId ≠ masterKeys.current.id then inspection.pending + 1 else inspection.pending
              total := inspection.total + 1 } := by
      rw [inspectWorkspaceKey, assertStoredEnvelopeIdentity, if_neg (not_not.mpr hidentified), hkey]
      rfl
    rw [List.foldlM_cons, hrow]
    refine (ih (fun later hlater => h later (List.mem_cons_of_mem _ hlater)) _).trans ?_
    rw [List.filter_cons, List.length_cons]
    by_cases hother : row.keyId ≠ masterKeys.current.id
    · simp [underOtherKey, hother, Nat.add_assoc, Nat.add_comm 1]
    · simp [underOtherKey, hother, Nat.add_assoc, Nat.add_comm 1]

theorem inspectSqliteMasterKeyRotation_wrapped (h : ∀ row ∈ workspaceKeys, WrappedRow masterKeys row) :
    inspectSqliteMasterKeyRotation workspaceKeys masterKeys =
      .ok { pending := pendingKeys masterKeys workspaceKeys, total := workspaceKeys.records.length } := by
  have hperm := orderedBy_perm WorkspaceKey.workspaceId workspaceKeys.records
  have hlength := hperm.length_eq
  rw [inspectSqliteMasterKeyRotation, inspectPages_eq (List.nil_append _).symm .start (by omega),
    foldlM_inspectWorkspaceKey fun row hrow => h row (hperm.mem_iff.mp hrow), hlength,
    (hperm.filter (underOtherKey masterKeys)).length_eq, Nat.zero_add, Nat.zero_add]
  rfl

/-- What every step keeps: the rows which were there have their keys, and those under the current key are as they were. -/
structure KeysKept (masterKeys : MasterKeyRing) (before after : Table WorkspaceKey) : Prop where
  kept : ∀ workspaceId row, before.get? workspaceId = some row → ∃ row', after.get? workspaceId = some row' ∧
    (row' = row ∨ underOtherKey masterKeys row = true) ∧
    unwrapWorkspaceKeyFromRing workspaceId row'.wrappedKey masterKeys =
      unwrapWorkspaceKeyFromRing workspaceId row.wrappedKey masterKeys
  wrapped : (∀ row ∈ before, WrappedRow masterKeys row) → ∀ row ∈ after, WrappedRow masterKeys row

theorem KeysKept.refl (workspaceKeys : Table WorkspaceKey) : KeysKept masterKeys workspaceKeys workspaceKeys where
  kept _ row hrow := ⟨row, hrow, .inl rfl, rfl⟩
  wrapped h := h

theorem KeysKept.trans {first second third : Table WorkspaceKey} (hfirst : KeysKept masterKeys first second)
    (hsecond : KeysKept masterKeys second third) : KeysKept masterKeys first third where
  kept workspaceId row hrow := by
    obtain ⟨row', hrow', hsame', hkey'⟩ := hfirst.kept workspaceId row hrow
    obtain ⟨row'', hrow'', hsame'', hkey''⟩ := hsecond.kept workspaceId row' hrow'
    refine ⟨row'', hrow'', ?_, hkey''.trans hkey'⟩
    rcases hsame' with rfl | hother
    · exact hsame''
    · exact .inr hother
  wrapped h := hsecond.wrapped (hfirst.wrapped h)

theorem updateWorkspaceKey_spec {row : WorkspaceKey} {wrappedKey : CryptoEnvelope} {key : CryptoKey}
    (hrow : row ∈ workspaceKeys) (hother : underOtherKey masterKeys row = true)
    (hold : unwrapWorkspaceKeyFromRing row.workspaceId row.wrappedKey masterKeys = .ok key)
    (hnew : unwrapWorkspaceKeyFromRing row.workspaceId wrappedKey masterKeys = .ok key)
    (hkeyId : wrappedKey.keyId = masterKeys.current.id) :
    ∃ updated, updateWorkspaceKey workspaceKeys masterKeys row wrappedKey = .ok updated ∧
      KeysKept masterKeys workspaceKeys updated ∧
      pendingKeys masterKeys updated + 1 = pendingKeys masterKeys workspaceKeys ∧
      ∀ other ∈ workspaceKeys, other.workspaceId ≠ row.workspaceId → other ∈ updated := by
  have hany : (workspaceKeys.records.any fun stored =>
      stored.workspaceId = row.workspaceId && stored.keyId = row.keyId) = true :=
    List.any_eq_true.mpr ⟨row, hrow, by simp⟩
  have hgiven : workspaceKeys.get? row.workspaceId = some row := Table.get?_of_mem hrow
  have honly : ∀ stored : WorkspaceKey, (stored.workspaceId = row.workspaceId && stored.keyId = row.keyId : Bool) = true →
      stored.workspaceId = row.workspaceId := by
    intro stored hstored
    exact of_decide_eq_true (Bool.and_eq_true_iff.mp hstored).1
  refine ⟨_, if_pos hany, ⟨fun workspaceId found hfound => ?_, fun hwrapped => ?_⟩, ?_, fun other hmem hne => ?_⟩
  · have hget := Table.get?_modify_key
      (f := fun stored : WorkspaceKey => { stored with keyId := masterKeys.current.id, wrappedKey := wrappedKey })
      ⟨fun _ => rfl⟩ hgiven (by simp) honly workspaceId
    by_cases hid : workspaceId = row.workspaceId
    · subst hid
      rw [hgiven] at hfound
      cases hfound
      rw [if_pos rfl] at hget
      exact ⟨_, hget, .inr hother, hnew.trans hold.symm⟩
    · rw [if_neg hid, hfound] at hget
      exact ⟨found, hget, .inl rfl, rfl⟩
  · intro stored hstored
    obtain ⟨source, hsource, rfl⟩ := (Table.mem_modify _).mp hstored
    split
    · rename_i hguarded
      have hid := honly source hguarded
      refine ⟨hkeyId.symm, key, ?_⟩
      show unwrapWorkspaceKeyFromRing source.workspaceId wrappedKey masterKeys = .ok key
      rw [hid]
      exact hnew
    · exact hwrapped source hsource
  · obtain ⟨before, after, hrecords⟩ := List.append_of_mem hrow
    have hunique : ∀ stored ∈ workspaceKeys,
        (stored.workspaceId = row.workspaceId && stored.keyId = row.keyId : Bool) = true → stored = row :=
      fun stored hstored hguarded => Table.eq_of_key hstored hrow (honly stored hguarded)
    rw [pendingKeys, pendingKeys, Table.modify_one _ hrecords (by simp) hunique, hrecords, List.filter_append,
      List.filter_append, List.filter_cons_of_pos hother, List.filter_cons_of_neg (by simp [underOtherKey]),
      List.length_append, List.length_append, List.length_cons]
    omega
  · refine (Table.mem_modify _).mpr ⟨other, hmem, ?_⟩
    have hnot : ¬ (other.workspaceId = row.workspaceId && other.keyId = row.keyId : Bool) = true :=
      fun hguarded => hne (honly other hguarded)
    rw [if_neg hnot]

theorem rotateRows_spec (hcipher : RoundTripCipher) (nonces : Nat → CipherNonce) (rotated : Nat) {rows : List WorkspaceKey}
    (hwrapped : ∀ row ∈ workspaceKeys, WrappedRow masterKeys row)
    (hrows : ∀ row ∈ rows, row ∈ workspaceKeys ∧ underOtherKey masterKeys row = true)
    (hdistinct : (rows.map WorkspaceKey.workspaceId).Nodup) :
    ∃ rotatedKeys, rotateRows masterKeys nonces workspaceKeys rotated rows = .ok (rotatedKeys, rotated + rows.length) ∧
      KeysKept masterKeys workspaceKeys rotatedKeys ∧
      pendingKeys masterKeys rotatedKeys + rows.length = pendingKeys masterKeys workspaceKeys := by
  induction rows generalizing workspaceKeys rotated with
  | nil => exact ⟨workspaceKeys, rfl, .refl workspaceKeys, rfl⟩
  | cons row rows ih =>
    obtain ⟨hrow, hother⟩ := hrows row List.mem_cons_self
    obtain ⟨hidentified, key, hkey⟩ := hwrapped row hrow
    obtain ⟨hfresh, hrest⟩ := List.nodup_cons.mp hdistinct
    obtain ⟨wrappedKey, hrewrap, hkeyId, hunwraps⟩ := rewrapWorkspaceKey_spec hcipher (nonces rotated) hkey
    obtain ⟨updated, hupdate, hkept, hpending, hothers⟩ := updateWorkspaceKey_spec hrow hother hkey hunwraps hkeyId
    have hremaining : ∀ later ∈ rows, later ∈ updated ∧ underOtherKey masterKeys later = true := by
      intro later hlater
      obtain ⟨hmem, hlaterOther⟩ := hrows later (List.mem_cons_of_mem _ hlater)
      refine ⟨hothers later hmem fun hid => hfresh ?_, hlaterOther⟩
      rw [← hid]
      exact List.mem_map_of_mem hlater
    obtain ⟨rotatedKeys, hrotate, hkept', hpending'⟩ := ih (rotated + 1) (hkept.wrapped hwrapped) hremaining hrest
    refine ⟨rotatedKeys, ?_, hkept.trans hkept', ?_⟩
    · rw [rotateRows, assertStoredEnvelopeIdentity, if_neg (not_not.mpr hidentified), hrewrap]
      show (updateWorkspaceKey workspaceKeys masterKeys row wrappedKey >>= fun next =>
        rotateRows masterKeys nonces next (rotated + 1) rows) = _
      rw [hupdate]
      show rotateRows masterKeys nonces updated (rotated + 1) rows = _
      rw [hrotate, List.length_cons, Nat.add_assoc, Nat.add_comm 1]
    · rw [List.length_cons]
      omega

omit [CipherRuntime] in
theorem rotationBatch_spec (masterKeys : MasterKeyRing) (workspaceKeys : Table WorkspaceKey) (batchSize : Nat) :
    (∀ row ∈ rotationBatch workspaceKeys masterKeys batchSize, row ∈ workspaceKeys ∧ underOtherKey masterKeys row = true) ∧
      ((rotationBatch workspaceKeys masterKeys batchSize).map WorkspaceKey.workspaceId).Nodup ∧
      (rotationBatch workspaceKeys masterKeys batchSize).length = min batchSize (pendingKeys masterKeys workspaceKeys) := by
  refine ⟨fun row hrow => Table.mem_selection hrow, Table.nodup_selection, ?_⟩
  rw [rotationBatch, List.length_take, (orderedBy_perm _ _).length_eq, pendingKeys]

theorem rotateSqliteMasterKeysBatch_spec (hcipher : RoundTripCipher) (hwrapped : ∀ row ∈ workspaceKeys, WrappedRow masterKeys row)
    {batchSize : Int} (hsize : 1 ≤ batchSize ∧ batchSize ≤ MAXIMUM_ROTATION_BATCH_SIZE) (nonces : Nat → CipherNonce) :
    ∃ rotatedKeys, rotateSqliteMasterKeysBatch workspaceKeys masterKeys batchSize nonces =
        .ok (rotatedKeys, { remaining := pendingKeys masterKeys rotatedKeys
                            rotated := min batchSize.toNat (pendingKeys masterKeys workspaceKeys) }) ∧
      KeysKept masterKeys workspaceKeys rotatedKeys ∧
      pendingKeys masterKeys rotatedKeys = pendingKeys masterKeys workspaceKeys - batchSize.toNat := by
  obtain ⟨hrows, hdistinct, hlength⟩ := rotationBatch_spec masterKeys workspaceKeys batchSize.toNat
  obtain ⟨rotatedKeys, hrotate, hkept, hpending⟩ := rotateRows_spec hcipher nonces 0 hwrapped hrows hdistinct
  have hconsistent : (workspaceKeys.records.any fun row => row.keyId ≠ row.wrappedKey.keyId) ≠ true := by
    intro hany
    obtain ⟨row, hrow, hne⟩ := List.any_eq_true.mp hany
    exact of_decide_eq_true hne (hwrapped row hrow).identified
  refine ⟨rotatedKeys, ?_, hkept, by omega⟩
  rw [rotateSqliteMasterKeysBatch, if_neg (by omega), if_neg hconsistent, hrotate, hlength, Nat.zero_add]
  rfl

theorem requireWorkspaceKey_spec (hcipher : RoundTripCipher) {service : MasterKeyRing} {workspaceId : String} {drawn : DrawnKey}
    {nonce : CipherNonce} {stored : Table WorkspaceKey} {key : CryptoKey}
    (hknown : masterKeys.keys.get? service.current.id = some service.current)
    (h : requireWorkspaceKey workspaceKeys service workspaceId drawn nonce = .ok (stored, key)) :
    KeysKept masterKeys workspaceKeys stored ∧ pendingKeys masterKeys stored ≤
      pendingKeys masterKeys workspaceKeys + if service.current.id ≠ masterKeys.current.id then 1 else 0 := by
  simp only [requireWorkspaceKey] at h
  split at h
  · cases h
  split at h
  · cases h
  obtain ⟨_, _, heq⟩ := except_bind_eq_ok.mp h
  cases heq
  cases hinsert : workspaceKeys.insert
    { workspaceId := workspaceId
      keyId := service.current.id
      wrappedKey := generateWorkspaceKey workspaceId service.current drawn.bytes nonce } with
  | none => exact ⟨.refl workspaceKeys, Nat.le_add_right _ _⟩
  | some created =>
    rw [Option.getD_some]
    obtain ⟨hrecords, hfresh⟩ := Table.insert_eq_some hinsert
    refine ⟨⟨fun found row hrow => ⟨row, ?_, .inl rfl, rfl⟩, fun hwrapped row hrow => ?_⟩, ?_⟩
    · rw [Table.get?_insert hinsert, if_neg, hrow]
      intro hid
      rw [← hid, hrow] at hfresh
      cases hfresh
    · rcases (Table.mem_insert hinsert).mp hrow with hold | rfl
      · exact hwrapped row hold
      · exact ⟨rfl, drawn.bytes, unwrapWorkspaceKeyFromRing_sealed hcipher _ nonce drawn.length hknown⟩
    · rw [pendingKeys, hrecords, List.filter_append, List.length_append, pendingKeys, List.filter_singleton]
      by_cases hother : service.current.id ≠ masterKeys.current.id
      · simp [underOtherKey, hother]
      · simp [underOtherKey, hother]

namespace RotationAction

theorem apply_spec (hcipher : RoundTripCipher) (hwrapped : ∀ row ∈ workspaceKeys, WrappedRow masterKeys row)
    {action : RotationAction} (hknown : action.known masterKeys) :
    KeysKept masterKeys workspaceKeys (action.apply masterKeys workspaceKeys) ∧
      pendingKeys masterKeys (action.apply masterKeys workspaceKeys) ≤
        pendingKeys masterKeys workspaceKeys - action.asked + if action.createsUnderOther masterKeys then 1 else 0 := by
  cases action with
  | rotate batchSize nonces =>
    by_cases hsize : 1 ≤ batchSize ∧ batchSize ≤ MAXIMUM_ROTATION_BATCH_SIZE
    · obtain ⟨rotatedKeys, hrotate, hkept, hpending⟩ := rotateSqliteMasterKeysBatch_spec hcipher hwrapped hsize nonces
      simp only [apply, hrotate, asked, if_pos hsize]
      exact ⟨hkept, by omega⟩
    · have hrefused : rotateSqliteMasterKeysBatch workspaceKeys masterKeys batchSize nonces =
          .error (.failure "Master-key rotation batch size must be between 1 and 500.") :=
        if_pos (by omega)
      simp only [apply, hrefused, asked, if_neg hsize]
      exact ⟨.refl workspaceKeys, Nat.le_add_right _ _⟩
  | interrupted batchSize nonces => exact ⟨.refl workspaceKeys, Nat.le_add_right _ _⟩
  | create service workspaceId drawn nonce =>
    cases hrequire : requireWorkspaceKey workspaceKeys service workspaceId drawn nonce with
    | error error =>
      simp only [apply, hrequire]
      exact ⟨.refl workspaceKeys, Nat.le_add_right _ _⟩
    | ok result =>
      obtain ⟨hkept, hpending⟩ := requireWorkspaceKey_spec hcipher hknown hrequire
      simp only [apply, hrequire, asked, createsUnderOther, decide_eq_true_eq]
      exact ⟨hkept, hpending⟩

theorem run_spec (hcipher : RoundTripCipher) (hwrapped : ∀ row ∈ workspaceKeys, WrappedRow masterKeys row)
    {actions : List RotationAction} (hknown : ∀ action ∈ actions, action.known masterKeys) :
    KeysKept masterKeys workspaceKeys (run masterKeys workspaceKeys actions) ∧
      pendingKeys masterKeys (run masterKeys workspaceKeys actions) ≤
        pendingKeys masterKeys workspaceKeys + actions.countP (createsUnderOther masterKeys) ∧
      ((∀ action ∈ actions, action.createsUnderOther masterKeys = false) →
        pendingKeys masterKeys (run masterKeys workspaceKeys actions) ≤
          pendingKeys masterKeys workspaceKeys - (actions.map asked).sum) := by
  induction actions generalizing workspaceKeys with
  | nil => exact ⟨.refl workspaceKeys, Nat.le_refl _, fun _ => Nat.le_refl _⟩
  | cons action actions ih =>
    obtain ⟨hkept, hpending⟩ := apply_spec hcipher hwrapped (hknown action List.mem_cons_self)
    obtain ⟨hkept', hpending', hprogress⟩ := ih (hkept.wrapped hwrapped) fun later hlater =>
      hknown later (List.mem_cons_of_mem _ hlater)
    refine ⟨hkept.trans hkept', ?_, fun hcurrent => ?_⟩
    · rw [List.countP_cons]
      change pendingKeys masterKeys (run masterKeys (action.apply masterKeys workspaceKeys) actions) ≤ _
      omega
    · have hrest := hprogress fun later hlater => hcurrent later (List.mem_cons_of_mem _ hlater)
      rw [hcurrent action List.mem_cons_self] at hpending
      rw [List.map_cons, List.sum_cons]
      change pendingKeys masterKeys (run masterKeys (action.apply masterKeys workspaceKeys) actions) ≤ _
      simp only [Bool.false_eq_true, ↓reduceIte] at hpending
      omega

end RotationAction

def workspaceDataKey (masterKeys : MasterKeyRing) (workspaceKeys : Table WorkspaceKey) (workspaceId : String) :
    Option CryptoKey :=
  (workspaceKeys.get? workspaceId).bind fun row => (unwrapWorkspaceKeyFromRing workspaceId row.wrappedKey masterKeys).toOption

theorem KeysKept.dataKey {before after : Table WorkspaceKey} (h : KeysKept masterKeys before after) {row : WorkspaceKey}
    (hrow : row ∈ before) :
    workspaceDataKey masterKeys after row.workspaceId = workspaceDataKey masterKeys before row.workspaceId := by
  obtain ⟨row', hrow', _, hkey⟩ := h.kept row.workspaceId row (Table.get?_of_mem hrow)
  have hbefore : before.get? row.workspaceId = some row := Table.get?_of_mem hrow
  rw [workspaceDataKey, workspaceDataKey, hrow', hbefore, Option.bind_some, Option.bind_some, hkey]

structure RotationResumable (masterKeys : MasterKeyRing) (before : Table WorkspaceKey) (actions : List RotationAction)
    (after : Table WorkspaceKey) : Prop where
  dataKeys : ∀ row ∈ before, (workspaceDataKey masterKeys before row.workspaceId).isSome ∧
    workspaceDataKey masterKeys after row.workspaceId = workspaceDataKey masterKeys before row.workspaceId
  untouched : ∀ row ∈ before, row.keyId = masterKeys.current.id → row ∈ after
  inspected : ∃ inspection inspection', inspectSqliteMasterKeyRotation before masterKeys = .ok inspection ∧
    inspectSqliteMasterKeyRotation after masterKeys = .ok inspection' ∧
    inspection'.pending ≤ inspection.pending + actions.countP (RotationAction.createsUnderOther masterKeys) ∧
    ((∀ action ∈ actions, action.createsUnderOther masterKeys = false) →
      inspection'.pending ≤ inspection.pending - (actions.map RotationAction.asked).sum)
  /-- The transaction of a next batch, stopped after any of its rows. -/
  within : ∀ (batchSize : Nat) (nonces : Nat → CipherNonce) (stop : Nat), ∃ stopped,
    rotateRows masterKeys nonces after 0 ((rotationBatch after masterKeys batchSize).take stop) = .ok stopped ∧
    (∀ row ∈ after, workspaceDataKey masterKeys stopped.1 row.workspaceId = workspaceDataKey masterKeys after row.workspaceId) ∧
    ∀ row ∈ after, row.keyId = masterKeys.current.id → row ∈ stopped.1
  continues : ∀ (batchSize : Int) (nonces : Nat → CipherNonce), 1 ≤ batchSize ∧ batchSize ≤ MAXIMUM_ROTATION_BATCH_SIZE →
    ∃ inspection rotatedKeys, inspectSqliteMasterKeyRotation after masterKeys = .ok inspection ∧
      rotateSqliteMasterKeysBatch after masterKeys batchSize nonces =
        .ok (rotatedKeys, { remaining := inspection.pending - batchSize.toNat
                            rotated := min batchSize.toNat inspection.pending })

theorem KeysKept.untouched {before after : Table WorkspaceKey} (h : KeysKept masterKeys before after) {row : WorkspaceKey}
    (hrow : row ∈ before) (hcurrent : row.keyId = masterKeys.current.id) : row ∈ after := by
  obtain ⟨row', hrow', hsame, _⟩ := h.kept row.workspaceId row (Table.get?_of_mem hrow)
  rcases hsame with rfl | hother
  · exact (Table.get?_eq_some.mp hrow').1
  · exact absurd hcurrent (of_decide_eq_true hother)

/-- Batches of any sizes, interrupted anywhere and among creations, keep every workspace key and use up the pending ones. -/
theorem masterKeyRotation_resumable (hcipher : RoundTripCipher) (masterKeys : MasterKeyRing) (workspaceKeys : Table WorkspaceKey)
    (hwrapped : ∀ row ∈ workspaceKeys, WrappedRow masterKeys row) (actions : List RotationAction)
    (hknown : ∀ action ∈ actions, action.known masterKeys) :
    RotationResumable masterKeys workspaceKeys actions (RotationAction.run masterKeys workspaceKeys actions) := by
  obtain ⟨hkept, hpending, hprogress⟩ := RotationAction.run_spec hcipher hwrapped hknown
  have hafter := hkept.wrapped hwrapped
  have hinspect := inspectSqliteMasterKeyRotation_wrapped hafter
  refine ⟨fun row hrow => ⟨?_, hkept.dataKey hrow⟩, fun _ => hkept.untouched,
    ⟨_, _, inspectSqliteMasterKeyRotation_wrapped hwrapped, hinspect, hpending, hprogress⟩,
    fun batchSize nonces stop => ?_, fun batchSize nonces hsize => ?_⟩
  · obtain ⟨_, key, hkey⟩ := hwrapped row hrow
    have hfound : workspaceKeys.get? row.workspaceId = some row := Table.get?_of_mem hrow
    rw [workspaceDataKey, hfound, Option.bind_some, hkey]
    rfl
  · obtain ⟨hrows, hdistinct, _⟩ := rotationBatch_spec masterKeys
      (RotationAction.run masterKeys workspaceKeys actions) batchSize
    obtain ⟨stopped, hrotate, hstopped, _⟩ := rotateRows_spec hcipher nonces 0 hafter
      (fun row hrow => hrows row (List.mem_of_mem_take hrow)) (hdistinct.sublist ((List.take_sublist stop _).map _))
    exact ⟨_, hrotate, fun _ => hstopped.dataKey, fun _ => hstopped.untouched⟩
  · obtain ⟨rotatedKeys, hrotate, _, hremaining⟩ := rotateSqliteMasterKeysBatch_spec hcipher hafter hsize nonces
    rw [hremaining] at hrotate
    exact ⟨_, rotatedKeys, hinspect, hrotate⟩

end Keys

section Sample

def bytesFrom (start count : Nat) : List UInt8 :=
  (List.range count).map fun n => UInt8.ofNat (start + n)

def oldMasterKey : MasterKey := ⟨"old-v1", bytesFrom 0 32, by decide, rfl⟩

def newMasterKey : MasterKey := ⟨"new-v2", bytesFrom 32 32, by decide, rfl⟩

def rotationRing : MasterKeyRing where
  current := newMasterKey
  keys := ⟨[newMasterKey, oldMasterKey], by decide⟩
  contains := rfl

def rotationWorkspace : String := "6f1e0f9e-3c56-4d0b-9c5b-0c7a3a1d2e4f"

def rotationNonce (start : Nat) : CipherNonce := ⟨bytesFrom start 12, by simp [bytesFrom, NONCE_BYTES]⟩

def rotationKey : CryptoKey := bytesFrom 64 32

def rotationSeals : List (Sealing × (List UInt8 × List UInt8)) :=
  [(⟨oldMasterKey.value, bytesFrom 0 12, contextBytes (workspaceKeyContext rotationWorkspace), rotationKey⟩,
      ([7, 67, 148, 88, 129, 160, 132, 92, 197, 8, 221, 192, 253, 164, 54, 34, 211, 135, 213, 103, 164, 46, 9, 43, 96, 62, 191,
        222, 65, 52, 94, 237], [186, 158, 26, 120, 255, 178, 60, 235, 237, 26, 230, 88, 233, 108, 211, 89])),
    (⟨newMasterKey.value, bytesFrom 12 12, contextBytes (workspaceKeyContext rotationWorkspace), rotationKey⟩,
      ([162, 123, 12, 118, 112, 120, 70, 248, 150, 28, 174, 191, 190, 152, 173, 136, 254, 199, 121, 228, 159, 249, 207, 19, 255,
        129, 229, 71, 119, 83, 214, 24], [68, 32, 24, 205, 24, 3, 216, 239, 201, 238, 26, 191, 254, 174, 63, 225]))]

def Sealing.isFor (sealing : Sealing) (key nonce context : List UInt8) : Bool :=
  sealing.key = key && sealing.nonce = nonce && sealing.context = context

def rotationEncrypt (key nonce context plaintext : List UInt8) : List UInt8 × List UInt8 :=
  match rotationSeals.find? fun entry => entry.1.isFor key nonce context && entry.1.plaintext = plaintext with
  | some entry => entry.2
  | none => (plaintext, List.replicate 16 0)

def rotationDecrypt (key nonce context : List UInt8) (encrypted : List UInt8 × List UInt8) : Option (List UInt8) :=
  match rotationSeals.find? fun entry => entry.1.isFor key nonce context && entry.2 = encrypted with
  | some entry => some entry.1.plaintext
  | none => if encrypted.2 = List.replicate 16 0 then some encrypted.1 else none

local instance rotationCipher : CipherRuntime where
  encrypt := rotationEncrypt
  decrypt := rotationDecrypt
  decodeInvalid _ := "\uFFFD"

theorem rotationSeals_plaintext : ∀ entry ∈ rotationSeals,
    entry.1.plaintext = rotationKey ∧ entry.2.1.length = rotationKey.length ∧ entry.2.2.length = 16 ∧
      entry.2.2 ≠ List.replicate 16 0 := by
  decide +kernel

theorem rotationEncrypt_cases (key nonce context plaintext : List UInt8) :
    (∃ entry ∈ rotationSeals, entry.1.isFor key nonce context = true ∧ plaintext = rotationKey ∧
      rotationEncrypt key nonce context plaintext = entry.2) ∨
    rotationEncrypt key nonce context plaintext = (plaintext, List.replicate 16 0) := by
  rw [rotationEncrypt]
  split
  · rename_i entry hfound
    have hmem := List.mem_of_find?_eq_some hfound
    have hentry := List.find?_some hfound
    rw [Bool.and_eq_true, decide_eq_true_eq, (rotationSeals_plaintext entry hmem).1] at hentry
    exact .inl ⟨entry, hmem, hentry.1, hentry.2.symm, rfl⟩
  · exact .inr rfl

theorem rotationCipher_roundTrip : RoundTripCipher where
  opens key nonce context plaintext := by
    show rotationDecrypt key nonce context (rotationEncrypt key nonce context plaintext) = some plaintext
    rcases rotationEncrypt_cases key nonce context plaintext with ⟨entry, hmem, hfor, rfl, hencrypt⟩ | hencrypt
    · rw [hencrypt, rotationDecrypt]
      split
      · rename_i other hback
        rw [(rotationSeals_plaintext other (List.mem_of_find?_eq_some hback)).1]
      · rename_i hback
        have hnot := List.find?_eq_none.mp hback entry hmem
        rw [hfor, decide_eq_true rfl] at hnot
        exact absurd rfl hnot
    · rw [hencrypt, rotationDecrypt]
      split
      · rename_i other hback
        have hother := List.find?_some hback
        rw [Bool.and_eq_true, decide_eq_true_eq] at hother
        have htag := (rotationSeals_plaintext other (List.mem_of_find?_eq_some hback)).2.2.2
        exact absurd (congrArg Prod.snd hother.2) htag
      · exact if_pos rfl
  size key nonce context plaintext := by
    show (rotationEncrypt key nonce context plaintext).1.length = plaintext.length ∧
      (rotationEncrypt key nonce context plaintext).2.length = 16
    rcases rotationEncrypt_cases key nonce context plaintext with ⟨entry, hmem, _, rfl, hencrypt⟩ | hencrypt
    · obtain ⟨_, hciphertext, htag, _⟩ := rotationSeals_plaintext entry hmem
      rw [hencrypt]
      exact ⟨hciphertext, htag⟩
    · rw [hencrypt]
      exact ⟨rfl, List.length_replicate⟩

def rotationRow : WorkspaceKey where
  workspaceId := rotationWorkspace
  keyId := "old-v1"
  wrappedKey := generateWorkspaceKey rotationWorkspace oldMasterKey rotationKey (rotationNonce 0)

/-- A workspace under the old key, a batch which is interrupted, and one which is not. -/
theorem masterKeyRotation_resumable_v2 : RotationResumable rotationRing (.singleton rotationRow)
    [.interrupted 100 fun _ => rotationNonce 12, .rotate 100 fun _ => rotationNonce 12]
    (RotationAction.run rotationRing (.singleton rotationRow)
      [.interrupted 100 fun _ => rotationNonce 12, .rotate 100 fun _ => rotationNonce 12]) := by
  refine masterKeyRotation_resumable rotationCipher_roundTrip rotationRing _ (fun row hrow => ?_) _ fun action haction => ?_
  · rw [List.mem_singleton.mp hrow]
    exact ⟨rfl, rotationKey, unwrapWorkspaceKeyFromRing_sealed rotationCipher_roundTrip _ _ rfl rfl⟩
  · rcases List.mem_cons.mp haction with rfl | haction
    · trivial
    · rw [List.mem_singleton.mp haction]
      trivial

end Sample

end ByokGrid

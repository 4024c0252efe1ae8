import K1s.Work.Ledger

/-!
# The envelope of a rescheduled attempt

`reschedule_work` copies the envelope of a new attempt into the message of the
outbox and into the ledger row.  The main result says for which calls and
states the two copies agree, so that a result which echoes the envelope of the
message is taken.
-/

namespace K1s
namespace Work

open Py Ha

/-! ## The envelope in the payload -/

theorem get_setdefault_of_ne
    (entries : Dict) {key other : String} (value : Json) (different : other ≠ key) :
    Dict.get (Dict.setdefault entries key value) other = Dict.get entries other := by
  unfold Dict.setdefault
  split
  · rfl
  · exact Dict.get_set_of_ne entries value different

namespace RescheduleCall

variable (call : RescheduleCall)

theorem get_withController_controllerId (payload : Dict) :
    Dict.get (call.withController payload) "controller_id" =
      call.controllerIdOf payload := by
  unfold withController controllerIdOf
  cases call.controllerEpoch <;> cases call.controllerId <;> dsimp only
  · split <;> simp
  · rw [Dict.get_set_of_ne _ _ (by decide)]
  · rw [Dict.get_set_of_ne _ _ (by decide)]
    split <;> simp

theorem get_withController_controllerEpoch (payload : Dict) :
    Dict.get (call.withController payload) "controller_epoch" =
      call.controllerEpochOf payload := by
  unfold withController controllerEpochOf
  cases call.controllerEpoch <;> cases call.controllerId <;> dsimp only
  · split
    · rfl
    · rw [Dict.get_set_of_ne _ _ (by decide)]
  · simp
  · simp

theorem get_dated
    (siteId : Json) (payload : Dict) {key : String}
    (others : key ∉ ["attempt", "work_id", "site_id", "created_at"]) :
    Dict.get (call.dated siteId payload) key = Dict.get payload key := by
  simp only [List.mem_cons, List.not_mem_nil, or_false, not_or] at others
  obtain ⟨notAttempt, notWork, notSite, notCreated⟩ := others
  rw [dated, Dict.get_set_of_ne _ _ notCreated, get_setdefault_of_ne _ _ notSite,
    get_setdefault_of_ne _ _ notWork, Dict.get_set_of_ne _ _ notAttempt]

theorem controllerIdOf_dated (siteId : Json) (payload : Dict) :
    call.controllerIdOf (call.dated siteId payload) = call.controllerIdOf payload := by
  unfold controllerIdOf
  rw [call.get_dated siteId payload (by decide)]

theorem controllerEpochOf_dated (siteId : Json) (payload : Dict) :
    call.controllerEpochOf (call.dated siteId payload) = call.controllerEpochOf payload := by
  unfold controllerEpochOf
  rw [call.get_dated siteId payload (by decide)]

/-- Which envelope the payload of the new attempt carries. -/
theorem newPayload_eq (siteId : Json) (payload : Dict) :
    call.newPayload siteId payload =
      if (call.controllerIdOf payload).truthy ∧ call.controllerEpochOf payload ≠ .null then
        Dict.set (call.withController (call.dated siteId payload)) "operation_id"
          (.str (workOperation call.workId (call.attempt + 1)))
      else call.withController (call.dated siteId payload) := by
  simp only [newPayload, get_withController_controllerId,
    get_withController_controllerEpoch, controllerIdOf_dated, controllerEpochOf_dated]

theorem get_newPayload_controllerId (siteId : Json) (payload : Dict) :
    Dict.get (call.newPayload siteId payload) "controller_id" =
      call.controllerIdOf payload := by
  rw [newPayload_eq]
  split
  · rw [Dict.get_set_of_ne _ _ (by decide), get_withController_controllerId,
      controllerIdOf_dated]
  · rw [get_withController_controllerId, controllerIdOf_dated]

theorem get_newPayload_controllerEpoch (siteId : Json) (payload : Dict) :
    Dict.get (call.newPayload siteId payload) "controller_epoch" =
      call.controllerEpochOf payload := by
  rw [newPayload_eq]
  split
  · rw [Dict.get_set_of_ne _ _ (by decide), get_withController_controllerEpoch,
      controllerEpochOf_dated]
  · rw [get_withController_controllerEpoch, controllerEpochOf_dated]

theorem get_newPayload_operationId
    (siteId : Json) (payload : Dict) (named : (call.controllerIdOf payload).truthy)
    (numbered : call.controllerEpochOf payload ≠ .null) :
    Dict.get (call.newPayload siteId payload) "operation_id" =
      .str (workOperation call.workId (call.attempt + 1)) := by
  rw [newPayload_eq, if_pos ⟨named, numbered⟩, Dict.get_set_self]

end RescheduleCall

/-! ## Reading the envelope back -/

/-- A text without outer whitespace is left as it is. -/
theorem strip_eq_self
    {text : String} (start : ∀ char ∈ text.toList.head?, ¬ char.isWhitespace)
    (finish : ∀ char ∈ text.toList.getLast?, ¬ char.isWhitespace) : strip text = text := by
  have opened : text.toList.dropWhile Char.isWhitespace = text.toList := by
    cases spelled : text.toList with
    | nil => rfl
    | cons head tail =>
        have visible := start head (by simp [spelled])
        simp [visible]
  have closed : text.toList.reverse.dropWhile Char.isWhitespace = text.toList.reverse := by
    cases spelled : text.toList.reverse with
    | nil => rfl
    | cons head tail =>
        have visible := finish head (by
          rw [← List.head?_reverse, spelled]
          rfl)
        simp [visible]
  rw [strip, opened, closed, List.reverse_reverse, String.ofList_toList]

/-- A number ends with a digit. -/
theorem getLast?_toString (number : Int) :
    ∃ digit, (toString number).toList.getLast? = some digit ∧ digit.isDigit := by
  have natural : ∀ value : Nat,
      ∃ digit, (toString value).toList.getLast? = some digit ∧ digit.isDigit := by
    intro value
    have spelled : (toString value).toList = Nat.toDigits 10 value := by
      rw [Nat.toString_eq_ofList_toDigits, String.toList_ofList]
    have nonempty : Nat.toDigits 10 value ≠ [] := Nat.toDigits_ne_nil
    refine ⟨(Nat.toDigits 10 value).getLast nonempty, ?_, ?_⟩
    · rw [spelled, List.getLast?_eq_getLast_of_ne_nil nonempty]
    · exact Nat.isDigit_of_mem_toDigits (b := 10) (by decide) (by decide)
        (List.getLast_mem nonempty)
  cases number with
  | ofNat value => exact natural value
  | negSucc value =>
      obtain ⟨digit, last, isDigit⟩ := natural (value + 1)
      refine ⟨digit, ?_, isDigit⟩
      change ("-" ++ toString (value + 1)).toList.getLast? = some digit
      rw [String.toList_append, List.getLast?_append, last]
      rfl

theorem workOperation_ne_empty (workId : String) (attempt : Int) :
    workOperation workId attempt ≠ "" := by
  intro empty
  have := congrArg String.toList empty
  simp [workOperation] at this

theorem strip_workOperation (workId : String) (attempt : Int) :
    strip (workOperation workId attempt) = workOperation workId attempt := by
  refine strip_eq_self ?_ ?_
  · intro char first
    rw [workOperation, String.append_assoc, String.append_assoc, String.toList_append] at first
    obtain rfl : 'w' = char := by simpa using first
    decide
  · intro char last
    obtain ⟨digit, ends, isDigit⟩ := getLast?_toString attempt
    rw [workOperation, String.toList_append, List.getLast?_append, ends] at last
    obtain rfl : digit = char := by simpa using last
    intro blank
    simp only [Char.isWhitespace, Bool.or_eq_true, decide_eq_true_eq] at blank
    rcases blank with ((rfl | rfl) | rfl) | rfl <;> exact absurd isDigit (by decide)

theorem truthy_of_envelopeText {value : Json} (named : envelopeText value ≠ "") :
    value.truthy = true := by
  by_contra empty
  refine named ?_
  rw [envelopeText, Json.or, if_neg empty]
  decide

theorem ne_null_of_envelopeEpoch {value : Json} (positive : 0 < envelopeEpoch value) :
    value ≠ .null := by
  rintro rfl
  exact absurd positive (by decide)

namespace RescheduleCall

variable (call : RescheduleCall)

/-- The call or the old payload names a controller and a positive epoch. -/
def Named (payload : Dict) : Prop :=
  envelopeText (call.controllerIdOf payload) ≠ "" ∧
    0 < envelopeEpoch (call.controllerEpochOf payload)

instance (payload : Dict) : Decidable (call.Named payload) :=
  inferInstanceAs (Decidable (_ ∧ _))

/-- The envelope of the new attempt. -/
def envelope (payload : Dict) : MutationEnvelope where
  controllerId := envelopeText (call.controllerIdOf payload)
  controllerEpoch := envelopeEpoch (call.controllerEpochOf payload)
  operationId := workOperation call.workId (call.attempt + 1)

/-- The payload of the new attempt has an envelope exactly when a controller and
an epoch are named, and its operation is then that of the new attempt. -/
theorem parseEnvelope_newPayload (siteId : Json) (payload : Dict) :
    parseEnvelope (.dict (call.newPayload siteId payload)) =
      if call.Named payload then some (call.envelope payload) else none := by
  unfold parseEnvelope
  simp only [get_newPayload_controllerId, get_newPayload_controllerEpoch]
  by_cases named : call.Named payload
  · have operation := call.get_newPayload_operationId siteId payload
      (truthy_of_envelopeText named.1) (ne_null_of_envelopeEpoch named.2)
    have written := workOperation_ne_empty call.workId (call.attempt + 1)
    have text : envelopeText (.str (workOperation call.workId (call.attempt + 1))) =
        workOperation call.workId (call.attempt + 1) := by
      rw [envelopeText, Json.or, if_pos (by simpa [Json.truthy] using written)]
      exact strip_workOperation _ _
    rw [operation, text, if_pos named, if_neg]
    · rfl
    · rintro (empty | empty | low)
      · exact named.1 empty
      · exact written empty
      · exact absurd named.2 (not_lt.mpr low)
  · rw [if_neg named, if_pos]
    by_cases empty : envelopeText (call.controllerIdOf payload) = ""
    · exact .inl empty
    · exact .inr (.inr (not_lt.mp fun positive => named ⟨empty, positive⟩))

end RescheduleCall

/-! ## Agreement of the two copies -/

/-- Every result that echoes the envelope of the payload is taken.  `ledger` is
what reading the ledger row gives. -/
def EchoAccepted
    (ledger : Option (Option WorkLedgerEntry)) (attempt : Int)
    (payload : Json) : Prop :=
  ∀ envelope, parseEnvelope payload = some envelope → ∃ entry, ledger = some entry ∧
      resultMatchesLedger entry attempt (some envelope) = true

theorem resultMatchesLedger_iff
    (entry : WorkLedgerEntry) (attempt : Int) (envelope : MutationEnvelope) :
    resultMatchesLedger (some entry) attempt (some envelope) = true ↔
      entry.attempt = attempt ∧ entry.controllerId.getD "" = envelope.controllerId ∧
        entry.controllerEpoch.getD 0 = envelope.controllerEpoch ∧
        entry.operationId.getD "" = envelope.operationId := by
  simp [resultMatchesLedger, and_assoc]

theorem echoAccepted_newPayload_iff
    (call : RescheduleCall) (siteId : Json) (payload : Dict)
    (ledger : Option (Option WorkLedgerEntry)) (attempt : Int) :
    EchoAccepted ledger attempt (.dict (call.newPayload siteId payload)) ↔
      (call.Named payload → ∃ entry, ledger = some entry ∧
        resultMatchesLedger entry attempt (some (call.envelope payload)) = true) := by
  unfold EchoAccepted
  rw [call.parseEnvelope_newPayload]
  by_cases named : call.Named payload
  · rw [if_pos named]
    constructor
    · intro accepted _
      exact accepted _ rfl
    · intro accepted envelope same
      obtain rfl := Option.some.inj same
      exact accepted named
  · rw [if_neg named]
    exact ⟨fun _ given => absurd given named, fun _ _ same => by cases same⟩

theorem getD_eq_iff {α : Type} {value : Option α} {default wanted : α}
    (other : wanted ≠ default) : value.getD default = wanted ↔ value = some wanted := by
  cases value with
  | none => simp [Ne.symm other]
  | some present => simp

/-- The columns of the SQLite store give the controller back as the envelope
has it: a text without outer whitespace, and a number. -/
def RescheduleCall.Storable (call : RescheduleCall) (payload : Dict) : Prop :=
  textColumn (call.controllerIdOf payload) = some (envelopeText (call.controllerIdOf payload)) ∧
    sqlInteger (call.controllerEpochOf payload) =
      some (some (envelopeEpoch (call.controllerEpochOf payload)))

/-- The ledger record has the controller of the call and the operation of the
new attempt already. -/
def RescheduleCall.Recorded
    (call : RescheduleCall)
    (record payload : Dict) : Prop :=
  optionalText (Dict.get record "controller_id") =
      some (envelopeText (call.controllerIdOf payload)) ∧
    optionalInt (Dict.get record "controller_epoch") =
      some (some (envelopeEpoch (call.controllerEpochOf payload))) ∧
    optionalText (Dict.get record "operation_id") =
      some (workOperation call.workId (call.attempt + 1))

/-- What a new attempt in the SQLite store comes from. -/
theorem Tables.rescheduleWork_eq_some
    {tables after : Tables} {call : RescheduleCall} {attempt : Int}
    (rescheduled : tables.rescheduleWork call = some (some attempt, after)) :
    ∃ outbox old row, tables.outbox.find? (call.workId, call.attempt) = some outbox ∧
      outbox.payload = .dict old ∧
      tables.ledger.find? call.workId = some row ∧
      row.attempt = call.attempt ∧
      attempt = call.attempt + 1 ∧
      after.ledger = tables.ledger.set call.workId
        (row.rescheduled attempt (call.newPayload (.str outbox.siteId) old) call.now) ∧
      after.outbox = tables.outbox.set (call.workId, attempt)
        (newOutboxRow call.workId outbox.siteId attempt
          (call.newPayload (.str outbox.siteId) old) call.now) := by
  unfold Tables.rescheduleWork at rescheduled
  split at rescheduled
  · simp at rescheduled
  · rename_i outbox found
    split at rescheduled
    · rename_i old shape
      dsimp only at rescheduled
      split at rescheduled
      · split at rescheduled
        · simp at rescheduled
        · rename_i row present
          split at rescheduled
          · simp at rescheduled
          · rename_i current
            split at rescheduled
            · simp at rescheduled
            · simp only [Option.some.injEq, Prod.mk.injEq] at rescheduled
              obtain ⟨rfl, rfl⟩ := rescheduled
              exact ⟨outbox, old, row, found, shape, present, not_not.mp current, rfl, rfl, rfl⟩
      · cases rescheduled
    · cases rescheduled

/-- In the SQLite store an echo of the new envelope is taken exactly when the
columns give the controller back. -/
theorem Tables.echoAccepted_iff
    {tables after : Tables} {call : RescheduleCall} {attempt : Int} {outbox : OutboxRow}
    {old : Dict} (found : tables.outbox.find? (call.workId, call.attempt) = some outbox)
    (shape : outbox.payload = .dict old)
    (rescheduled : tables.rescheduleWork call = some (some attempt, after)) :
    (∀ row, after.outbox.find? (call.workId, attempt) = some row →
      EchoAccepted (after.getWorkLedger call.workId) attempt row.payload) ↔
      (call.Named old → call.Storable old) := by
  obtain ⟨source, payload, row, sourceFound, sourceShape, -, -, rfl, ledger, outboxes⟩ :=
    Tables.rescheduleWork_eq_some rescheduled
  rw [found] at sourceFound
  obtain rfl := Option.some.inj sourceFound
  rw [shape] at sourceShape
  obtain rfl := Json.dict.inj sourceShape
  simp only [outboxes, Dictionary.find?_set, if_true, Option.some.injEq, forall_eq', newOutboxRow]
  rw [echoAccepted_newPayload_iff]
  refine forall_congr' fun named => ?_
  have operation := call.get_newPayload_operationId (.str outbox.siteId) old
    (truthy_of_envelopeText named.1) (ne_null_of_envelopeEpoch named.2)
  have written := workOperation_ne_empty call.workId (call.attempt + 1)
  have column : textColumn (.str (workOperation call.workId (call.attempt + 1))) =
      some (workOperation call.workId (call.attempt + 1)) := by
    simp [textColumn, Json.sqlText, written]
  simp only [Tables.getWorkLedger, ledger, Dictionary.find?_set, if_true, LedgerRow.entry,
    LedgerRow.rescheduled, RescheduleCall.get_newPayload_controllerId,
    RescheduleCall.get_newPayload_controllerEpoch, operation, column]
  cases epoch : sqlInteger (call.controllerEpochOf old) with
  | none => simp [RescheduleCall.Storable, epoch]
  | some epochColumn =>
      simp only [Option.map_some, Option.some.injEq, exists_eq_left',
        resultMatchesLedger_iff, RescheduleCall.envelope, true_and, Option.getD_some,
        and_true, RescheduleCall.Storable, epoch, getD_eq_iff named.1,
        getD_eq_iff (ne_of_gt named.2)]

/-! ## The etcd store -/

theorem outboxKey_ne_ledgerKey (root workId : String) (attempt : Int) :
    outboxKey root workId attempt ≠ ledgerKey root workId := by
  intro same
  rw [outboxKey, ledgerKey, Etcd.k_cons root "outbox" _ (by decide),
    Etcd.k_cons root "work" _ (by decide), List.append_assoc, List.append_assoc,
    List.append_cancel_left_eq] at same
  have first : some 'o' = some 'w' := congrArg List.head? same
  exact absurd first (by decide)

/-- What a new attempt in the etcd store comes from. -/
theorem rescheduleWork_eq_some
    {root : String} {store after : Etcd.Store} {call : RescheduleCall} {attempt : Int}
    (rescheduled : rescheduleWork root call store = (some (some attempt), after)) :
    ∃ outbox ledger old outboxRevision ledgerRevision,
      store.getJson (outboxKey root call.workId call.attempt) = some (outbox, outboxRevision) ∧
      store.getJson (ledgerKey root call.workId) = some (ledger, ledgerRevision) ∧
      (Dict.get outbox "payload").or (.dict []) = .dict old ∧
      attempt = call.attempt + 1 ∧
      after = enqueueWorkOutbox root call.workId attempt (Etcd.field outbox "site_id" (.str ""))
        (call.newPayload (Dict.get outbox "site_id") old) call.now
        (store.putJson (ledgerKey root call.workId)
          (rescheduledRecord ledger attempt call.now)) := by
  unfold rescheduleWork at rescheduled
  split at rescheduled
  · simp at rescheduled
  · simp at rescheduled
  · rename_i outbox outboxRevision _ outboxFound
    split at rescheduled
    · simp at rescheduled
    · simp at rescheduled
    · rename_i ledger ledgerRevision _ ledgerFound
      split at rescheduled
      · simp at rescheduled
      · split at rescheduled
        · simp at rescheduled
        · dsimp only at rescheduled
          split at rescheduled
          · rename_i old shape
            simp only [Prod.mk.injEq, Option.some.injEq] at rescheduled
            obtain ⟨rfl, rfl⟩ := rescheduled
            exact ⟨outbox, ledger, old, outboxRevision, ledgerRevision, outboxFound,
              ledgerFound, shape, rfl, rfl⟩
          · simp at rescheduled

/-- The record that is written has the envelope of the old one. -/
theorem get_rescheduledRecord
    (record : Dict) (attempt : Int) (now : String) {key : String}
    (others : key ∉ ["attempt", "state", "updated_at", "state_updated_at"]) :
    Dict.get (rescheduledRecord record attempt now) key = Dict.get record key := by
  simp only [List.mem_cons, List.not_mem_nil, or_false, not_or] at others
  obtain ⟨notAttempt, notState, notUpdated, notStateUpdated⟩ := others
  rw [rescheduledRecord, Dict.get_set_of_ne _ _ notStateUpdated,
    Dict.get_set_of_ne _ _ notUpdated, Dict.get_set_of_ne _ _ notState,
    Dict.get_set_of_ne _ _ notAttempt]

theorem attempt_rescheduledRecord (record : Dict) (attempt : Int) (now : String) :
    Etcd.field (rescheduledRecord record attempt now) "attempt" (.int 0) =
      .int attempt := by
  rw [Etcd.field, rescheduledRecord, Dict.find?_set_of_ne _ _ (by decide),
    Dict.find?_set_of_ne _ _ (by decide), Dict.find?_set_of_ne _ _ (by decide),
    Dict.find?_set_self]
  rfl

theorem get_outboxRecord_payload
    (workId : String) (attempt : Int) (siteId : Json) (payload : Dict) (now : String) :
    Dict.get (outboxRecord workId attempt siteId payload now) "payload" =
      .dict payload := by
  simp [outboxRecord, Dict.get, Dict.find?_cons]

/-- In the etcd store an echo of the new envelope is taken exactly when the
ledger record carried the new envelope before the call. -/
theorem echoAccepted_iff
    {root : String} {store after : Etcd.Store} {call : RescheduleCall} {attempt : Int}
    {outbox ledger old : Dict} {outboxRevision ledgerRevision : Nat}
    (outboxFound : store.getJson (outboxKey root call.workId call.attempt) =
      some (outbox, outboxRevision))
    (ledgerFound : store.getJson (ledgerKey root call.workId) = some (ledger, ledgerRevision))
    (shape : (Dict.get outbox "payload").or (.dict []) = .dict old)
    (rescheduled : rescheduleWork root call store = (some (some attempt), after)) :
    (∀ record revision,
      after.getJson (outboxKey root call.workId attempt) = some (record, revision) →
      EchoAccepted (getWorkLedger root call.workId after) attempt (Dict.get record "payload")) ↔
      (call.Named old → call.Recorded ledger old) := by
  obtain ⟨source, target, payload, _, _, sourceFound, targetFound, sourceShape, rfl, rfl⟩ :=
    rescheduleWork_eq_some rescheduled
  rw [outboxFound] at sourceFound
  rw [ledgerFound] at targetFound
  obtain ⟨rfl, -⟩ := Prod.mk.inj (Option.some.inj sourceFound)
  obtain ⟨rfl, -⟩ := Prod.mk.inj (Option.some.inj targetFound)
  rw [shape] at sourceShape
  obtain rfl := Json.dict.inj sourceShape
  -- The entry that is read after the call.
  have written : getWorkLedger root call.workId
      (enqueueWorkOutbox root call.workId (call.attempt + 1)
        (Etcd.field outbox "site_id" (.str ""))
        (call.newPayload (Dict.get outbox "site_id") old) call.now
        (store.putJson (ledgerKey root call.workId)
          (rescheduledRecord ledger (call.attempt + 1) call.now))) =
      (entryOfRecord call.workId
        (rescheduledRecord ledger (call.attempt + 1) call.now)).map some := by
    unfold getWorkLedger
    simp only [enqueueWorkOutbox, Etcd.Store.getJson, Etcd.Store.find?_putJson,
      outboxKey_ne_ledgerKey, if_false, if_true, Option.map_some]
    split
    · simp_all
    · rename_i empty
      simp only [Option.some.injEq, Prod.mk.injEq] at empty
      exact absurd empty.1 (Dict.set_ne_nil _ _ _)
    · rename_i record _ _ same
      simp only [Option.some.injEq, Prod.mk.injEq] at same
      rw [same.1]
  rw [written]
  simp only [enqueueWorkOutbox, Etcd.Store.getJson, Etcd.Store.find?_putJson, if_true,
    Option.map_some, Option.some.injEq, Prod.mk.injEq, and_imp]
  have accepted : (∀ record revision,
      outboxRecord call.workId (call.attempt + 1) (Etcd.field outbox "site_id" (.str ""))
        (call.newPayload (Dict.get outbox "site_id") old) call.now = record →
      store.revision + 1 + 1 = revision →
      EchoAccepted ((entryOfRecord call.workId
        (rescheduledRecord ledger (call.attempt + 1) call.now)).map some)
        (call.attempt + 1) (Dict.get record "payload")) ↔
      EchoAccepted ((entryOfRecord call.workId
        (rescheduledRecord ledger (call.attempt + 1) call.now)).map some)
        (call.attempt + 1) (.dict (call.newPayload (Dict.get outbox "site_id") old)) := by
    constructor
    · intro all
      simpa only [get_outboxRecord_payload] using all _ _ rfl rfl
    · rintro holds record revision rfl rfl
      rwa [get_outboxRecord_payload]
  refine accepted.trans ?_
  rw [echoAccepted_newPayload_iff]
  refine forall_congr' fun named => ?_
  simp only [entryOfRecord, attempt_rescheduledRecord,
    get_rescheduledRecord ledger (call.attempt + 1) call.now
      (by decide : "controller_id" ∉ ["attempt", "state", "updated_at", "state_updated_at"]),
    get_rescheduledRecord ledger (call.attempt + 1) call.now (by decide : "controller_epoch" ∉
        ["attempt", "state", "updated_at", "state_updated_at"]),
    get_rescheduledRecord ledger (call.attempt + 1) call.now
      (by decide : "operation_id" ∉ ["attempt", "state", "updated_at", "state_updated_at"]),
    Json.toInt, Option.bind_some]
  cases epoch : optionalInt (Dict.get ledger "controller_epoch") with
  | none => simp [RescheduleCall.Recorded, epoch]
  | some epochField =>
      simp only [Option.map_some, Option.some.injEq, exists_eq_left',
        resultMatchesLedger_iff, RescheduleCall.envelope, true_and,
        RescheduleCall.Recorded, epoch, getD_eq_iff named.1,
        getD_eq_iff (ne_of_gt named.2),
        getD_eq_iff (workOperation_ne_empty call.workId (call.attempt + 1))]

/-! ## Both stores -/

/-- After a new attempt, a result that echoes the envelope of its message is
taken exactly when, in the SQLite store, the columns give the named controller
back, and, in the etcd store, the ledger record carried the new envelope before
the call. -/
theorem rescheduled_accepted_iff (call : RescheduleCall) :
    (∀ (tables after : Tables) (attempt : Int) (outbox : OutboxRow) (old : Dict),
      tables.outbox.find? (call.workId, call.attempt) = some outbox →
      outbox.payload = .dict old →
      tables.rescheduleWork call = some (some attempt, after) →
      ((∀ row, after.outbox.find? (call.workId, attempt) = some row →
        EchoAccepted (after.getWorkLedger call.workId) attempt row.payload) ↔
        (call.Named old → call.Storable old))) ∧
      (∀ (root : String) (store after : Etcd.Store) (attempt : Int)
          (outbox ledger old : Dict) (outboxRevision ledgerRevision : Nat),
        store.getJson (outboxKey root call.workId call.attempt) = some (outbox, outboxRevision) →
        store.getJson (ledgerKey root call.workId) = some (ledger, ledgerRevision) →
        (Dict.get outbox "payload").or (.dict []) = .dict old →
        rescheduleWork root call store = (some (some attempt), after) →
        ((∀ record revision,
          after.getJson (outboxKey root call.workId attempt) = some (record, revision) →
          EchoAccepted (getWorkLedger root call.workId after) attempt
            (Dict.get record "payload")) ↔
          (call.Named old → call.Recorded ledger old))) :=
  ⟨fun _ _ _ _ _ found shape rescheduled =>
      Tables.echoAccepted_iff found shape rescheduled,
    fun _ _ _ _ _ _ _ _ _ outboxFound ledgerFound shape rescheduled =>
      echoAccepted_iff outboxFound ledgerFound shape rescheduled⟩

/-- The SQLite store keeps a controller identity that has no outer whitespace. -/
theorem RescheduleCall.storable_of_given
    {call : RescheduleCall} {controllerId : String} {controllerEpoch : Int}
    (given : call.controllerId = some controllerId)
    (epoch : call.controllerEpoch = some controllerEpoch) (written : controllerId ≠ "")
    (bare : strip controllerId = controllerId) (positive : 0 < controllerEpoch)
    (small : controllerEpoch < 2 ^ 63) (payload : Dict) : call.Storable payload := by
  have named : call.controllerIdOf payload = .str controllerId := by
    simp [controllerIdOf, given, written]
  have numbered : call.controllerEpochOf payload = .int controllerEpoch := by
    simp [controllerEpochOf, epoch]
  have nonzero : controllerEpoch ≠ 0 := ne_of_gt positive
  have low : -(2 ^ 63) ≤ controllerEpoch := by omega
  constructor
  · rw [named]
    simp [textColumn, Json.sqlText, envelopeText, Json.or, Json.truthy, Json.toStr, written, bare]
  · rw [numbered]
    have stored : sqlInteger (.int controllerEpoch) = some (some controllerEpoch) :=
      if_pos ⟨low, small⟩
    rw [stored]
    simp [envelopeEpoch, Json.or, Json.truthy, Json.toInt, nonzero]

theorem workOperation_ne_next (workId : String) (attempt : Int) :
    workOperation workId attempt ≠ workOperation workId (attempt + 1) := by
  intro same
  have texts : (toString attempt).toList = (toString (attempt + 1)).toList := by
    have := congrArg String.toList same
    simpa [workOperation, String.toList_append] using this
  have numbers : toString attempt = toString (attempt + 1) := String.toList_inj.mp texts
  match attempt with
  | .ofNat value =>
      have := Nat.repr_injective (show Nat.repr value = Nat.repr (value + 1) from numbers)
      omega
  | .negSucc 0 => exact absurd numbers (by decide)
  | .negSucc (value + 1) =>
      have shorter : Int.negSucc (value + 1) + 1 = Int.negSucc value := by omega
      rw [shorter] at texts
      change ("-" ++ toString (value + 1 + 1)).toList = ("-" ++ toString (value + 1)).toList
        at texts
      rw [String.toList_append, String.toList_append, List.append_cancel_left_eq] at texts
      have := Nat.repr_injective (String.toList_inj.mp texts)
      omega

/-- A ledger record with the operation of the old attempt does not carry the
new envelope. -/
theorem RescheduleCall.not_recorded_of_current
    {call : RescheduleCall} {record : Dict}
    (current : Dict.get record "operation_id" = .str (workOperation call.workId call.attempt))
    (payload : Dict) : ¬ call.Recorded record payload := by
  rintro ⟨-, -, operation⟩
  rw [current] at operation
  have same : workOperation call.workId call.attempt =
      workOperation call.workId (call.attempt + 1) := Option.some.inj operation
  exact workOperation_ne_next call.workId call.attempt same

/-! ## One work item in both stores -/

/-- The watchdog of another controller reschedules the first attempt. -/
def sampleCall : RescheduleCall where
  workId := "w"
  attempt := 1
  controllerId := some "ctl-2"
  controllerEpoch := some 2
  now := "t2"

/-- The message of the first attempt. -/
def samplePayload : Dict :=
  [("controller_id", .str "ctl-1"), ("controller_epoch", .int 1),
    ("operation_id", .str "work:w:1"), ("work_id", .str "w"), ("attempt", .int 1)]

/-- The work item in the SQLite store. -/
def sampleTables : Tables where
  ledger := Dictionary.empty.set "w"
    { attempt := 1, siteId := "s", state := .dispatched, controllerId := .str "ctl-1",
      controllerEpoch := .int 1, operationId := .str "work:w:1",
      desiredGeneration := .null, assignedNodeId := .null, observedGeneration := .null,
      result := .null, createdAt := "t1", updatedAt := "t1", stateUpdatedAt := "t1" }
  outbox := Dictionary.empty.set ("w", 1) (newOutboxRow "w" "s" 1 samplePayload "t1")

/-- The ledger record of the work item in the etcd store. -/
def sampleRecord : Dict :=
  [("work_id", .str "w"), ("attempt", .int 1), ("site_id", .str "s"),
    ("state", .str "Dispatched"), ("controller_id", .str "ctl-1"),
    ("controller_epoch", .int 1), ("operation_id", .str "work:w:1")]

def sampleStore : Etcd.Store :=
  enqueueWorkOutbox "k1s/v1" "w" 1 (.str "s") samplePayload "t1"
    (Etcd.Store.empty.putJson (ledgerKey "k1s/v1" "w") sampleRecord)

/-- Echoes of the new attempt of the sample are taken in the SQLite store. -/
def SampleTablesAccept : Prop :=
  ∃ after, sampleTables.rescheduleWork sampleCall = some (some 2, after) ∧
    ∀ row, after.outbox.find? ("w", 2) = some row →
      EchoAccepted (after.getWorkLedger "w") 2 row.payload

/-- Echoes of the new attempt of the sample are taken in the etcd store. -/
def SampleStoreAccepts : Prop :=
  ∀ record revision, (rescheduleWork "k1s/v1" sampleCall sampleStore).2.getJson
      (outboxKey "k1s/v1" "w" 2) = some (record, revision) →
    EchoAccepted (getWorkLedger "k1s/v1" "w" (rescheduleWork "k1s/v1" sampleCall sampleStore).2) 2
      (Dict.get record "payload")

theorem sampleStore_rescheduled :
    rescheduleWork "k1s/v1" sampleCall sampleStore =
      (some (some 2), (rescheduleWork "k1s/v1" sampleCall sampleStore).2) :=
  Prod.ext (by decide +kernel) rfl

/-- The sample has a new attempt in both stores; its echoes are taken in the
SQLite store and not in the etcd store. -/
theorem sample_accepted : SampleTablesAccept ∧ ¬ SampleStoreAccepts := by
  constructor
  · obtain ⟨after, rescheduled⟩ : ∃ after,
        sampleTables.rescheduleWork sampleCall = some (some 2, after) := ⟨_, rfl⟩
    refine ⟨after, rescheduled, ?_⟩
    refine ((rescheduled_accepted_iff sampleCall).1 sampleTables after 2 _ samplePayload
      rfl rfl rescheduled).mpr fun _ => ?_
    exact RescheduleCall.storable_of_given rfl rfl (by decide) (by decide) (by decide)
      (by decide) samplePayload
  · intro accepts
    have recorded := ((rescheduled_accepted_iff sampleCall).2 "k1s/v1" sampleStore _ 2 _
      sampleRecord samplePayload 3 2 rfl rfl rfl sampleStore_rescheduled).mp accepts
      (by decide)
    exact RescheduleCall.not_recorded_of_current rfl samplePayload recorded

/-- In the etcd store the watchdog's new attempt has the envelope of the old one
in the ledger, and every result of the new attempt is refused. -/
theorem not_sampleStoreAccepts : ¬ SampleStoreAccepts := by
  intro accepts
  have outboxFound : sampleStore.getJson (outboxKey "k1s/v1" sampleCall.workId
      sampleCall.attempt) = some (outboxRecord "w" 1 (.str "s") samplePayload "t1", 3) := rfl
  have ledgerFound : sampleStore.getJson (ledgerKey "k1s/v1" sampleCall.workId) =
      some (sampleRecord, 2) := rfl
  have shape : (Dict.get (outboxRecord "w" 1 (.str "s") samplePayload "t1")
      "payload").or (.dict []) = .dict samplePayload := rfl
  have recorded := (echoAccepted_iff outboxFound ledgerFound shape
    sampleStore_rescheduled).mp accepts (by decide)
  exact RescheduleCall.not_recorded_of_current rfl samplePayload recorded

end Work
end K1s

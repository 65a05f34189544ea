import GearshPayments.PayFast.Adhoc
import GearshPayments.Resumption.Questions
import GearshPayments.Resumption.Run
import GearshPayments.Store.Tx

/-!
# Bank details

`payout-methods.service.ts`: an artist enters bank details, which are encrypted and count
as unverified until an admin has verified them.  Each of the three writes reads the row
first.
-/

namespace GearshPayments

structure UpsertPayoutMethodInput where
  artistUserId : ℕ
  bankName : String
  accountHolderName : String
  accountNumber : String
  branchCode : String
  accountType : BankAccountType

namespace PayoutMethodsService

/-- The update of a row with new details; the time of the last use stays. -/
def newDetails (input : UpsertPayoutMethodInput) (encrypted : String) (m : ArtistPayoutMethod) :
    ArtistPayoutMethod :=
  { m with
    bankName := input.bankName
    accountHolderName := input.accountHolderName
    accountNumberEncrypted := encrypted
    branchCode := input.branchCode
    accountType := input.accountType
    isVerified := false
    verifiedAt := none
    verifiedBy := none }

/-- The first row of an artist. -/
def newMethod (input : UpsertPayoutMethodInput) (encrypted : String) (id createdAt : ℕ) :
    ArtistPayoutMethod where
  id := id
  artistUserId := input.artistUserId
  bankName := input.bankName
  accountHolderName := input.accountHolderName
  accountNumberEncrypted := encrypted
  branchCode := input.branchCode
  accountType := input.accountType
  isVerified := false
  verifiedAt := none
  verifiedBy := none
  lastUsedAt := none
  createdAt := createdAt

/-- Enter bank details; `encrypt` is done by the database. -/
def upsert (encrypt : String → String) (input : UpsertPayoutMethodInput) :
    Engine ArtistPayoutMethod := do
  let encrypted ← Resumption.read fun _ ↦ encrypt input.accountNumber
  match ← Resumption.read fun s ↦ s.methodOf? input.artistUserId with
  | some _ =>
    Resumption.transaction (Tx.updateMethodOf input.artistUserId (newDetails input encrypted))
  | none => Resumption.transaction (Tx.createArtistPayoutMethod (newMethod input encrypted))

/-- The update of a verified row. -/
def verifiedRow (adminUserId now : ℕ) (m : ArtistPayoutMethod) : ArtistPayoutMethod :=
  { m with isVerified := true, verifiedAt := some now, verifiedBy := some adminUserId }

/-- The update of a rejected row. -/
def rejectedRow (m : ArtistPayoutMethod) : ArtistPayoutMethod :=
  { m with isVerified := false, verifiedAt := none, verifiedBy := none }

/-- An admin verifies bank details; verified ones are returned as they are. -/
def verify (artistUserId adminUserId : ℕ) : Engine ArtistPayoutMethod := do
  match ← Resumption.read fun s ↦ s.methodOf? artistUserId with
  | none => throw (Failure.ofCode .notFound)
  | some row =>
    if row.isVerified then return row
    Resumption.transaction do
      Tx.updateMethodOf artistUserId (verifiedRow adminUserId (← Tx.now))

/-- An admin rejects bank details; who and why is logged only. -/
def reject (artistUserId : ℕ) : Engine ArtistPayoutMethod := do
  match ← Resumption.read fun s ↦ s.methodOf? artistUserId with
  | none => throw (Failure.ofCode .notFound)
  | some row =>
    if row.isVerified = false then return row
    Resumption.transaction (Tx.updateMethodOf artistUserId rejectedRow)

end PayoutMethodsService

/-- A call that writes bank details. -/
inductive PayoutMethodCall where
  | upsert (input : UpsertPayoutMethodInput)
  | verify (artistUserId adminUserId : ℕ)
  | reject (artistUserId : ℕ)

def PayoutMethodCall.program (encrypt : String → String) : PayoutMethodCall → Engine Unit
  | .upsert input => discard <| PayoutMethodsService.upsert encrypt input
  | .verify artistUserId adminUserId =>
    discard <| PayoutMethodsService.verify artistUserId adminUserId
  | .reject artistUserId => discard <| PayoutMethodsService.reject artistUserId

/-- An update of an artist's bank details commits where there are some. -/
theorem Tx.of_updateMethodOf_ok {artistUserId : ℕ} {f : ArtistPayoutMethod → ArtistPayoutMethod}
    {s s' : Store} {m : ArtistPayoutMethod} (h : Tx.updateMethodOf artistUserId f s = .ok (m, s')) :
    ∃ row, s.methodOf? artistUserId = some row ∧ s' =
      { s with
        artistPayoutMethods :=
          Table.update ArtistPayoutMethod.artistUserId artistUserId f s.artistPayoutMethods } := by
  cases hrow : s.methodOf? artistUserId with
  | none => simp [Tx.updateMethodOf, hrow] at h
  | some row =>
      rw [Tx.updateMethodOf_apply hrow] at h
      cases h
      exact ⟨row, rfl, rfl⟩

/-- An artist's first bank details are entered where there are none. -/
theorem Tx.of_createArtistPayoutMethod_ok {row : ℕ → ℕ → ArtistPayoutMethod} {s s' : Store}
    {m : ArtistPayoutMethod} (h : Tx.createArtistPayoutMethod row s = .ok (m, s')) :
    s.methodOf? (row s.nextId s.clock).artistUserId = none ∧ s' =
      { s with
        nextId := s.nextId + 1
        artistPayoutMethods := s.artistPayoutMethods ++ [row s.nextId s.clock] } := by
  cases hrow : s.methodOf? (row s.nextId s.clock).artistUserId with
  | some x => simp [Tx.createArtistPayoutMethod, hrow] at h
  | none =>
      rw [Tx.createArtistPayoutMethod_apply hrow] at h
      cases h
      exact ⟨rfl, rfl⟩

/-- Only bank details are written. -/
structure MethodWrite (s s' : Store) : Prop where
  nextId : s.nextId ≤ s'.nextId
  rest : s' = { s with nextId := s'.nextId, artistPayoutMethods := s'.artistPayoutMethods }

theorem MethodWrite.refl (s : Store) : MethodWrite s s := ⟨le_rfl, rfl⟩

section Programs

open Resumption

variable {I : Store → Prop} {s s' : Store} {m : ArtistPayoutMethod}

theorem methodWrite_update {artistUserId : ℕ} {f : ArtistPayoutMethod → ArtistPayoutMethod}
    (h : Tx.updateMethodOf artistUserId f s = .ok (m, s')) : MethodWrite s s' := by
  obtain ⟨row, -, rfl⟩ := Tx.of_updateMethodOf_ok h
  exact ⟨le_rfl, rfl⟩

theorem methodWrite_create {row : ℕ → ℕ → ArtistPayoutMethod}
    (h : Tx.createArtistPayoutMethod row s = .ok (m, s')) : MethodWrite s s' := by
  obtain ⟨-, rfl⟩ := Tx.of_createArtistPayoutMethod_ok h
  exact ⟨Nat.le_succ _, rfl⟩

section Guarantees

variable {G : Store → Store → Prop}

/-- An upsert enters new details. -/
theorem guarantees_upsert (hG : ∀ s, I s → G s s) (encrypt : String → String)
    (input : UpsertPayoutMethodInput)
    (hupdate : ∀ {s s' : Store} {m : ArtistPayoutMethod} (encrypted : String), I s →
      Tx.updateMethodOf input.artistUserId (PayoutMethodsService.newDetails input encrypted) s =
        .ok (m, s') → G s s')
    (hcreate : ∀ {s s' : Store} {m : ArtistPayoutMethod} (encrypted : String), I s →
      Tx.createArtistPayoutMethod (PayoutMethodsService.newMethod input encrypted) s = .ok (m, s') →
        G s s') :
    Guarantees I G (PayoutMethodsService.upsert encrypt input) := by
  refine (guarantees_read hG _).bind fun encrypted ↦ ?_
  refine (guarantees_read hG _).bind fun found ↦ ?_
  cases found with
  | none => exact guarantees_transaction hG fun _ _ _ hs h ↦ hcreate encrypted hs h
  | some row => exact guarantees_transaction hG fun _ _ _ hs h ↦ hupdate encrypted hs h

theorem guarantees_verify (hG : ∀ s, I s → G s s) (artistUserId adminUserId : ℕ)
    (hverify : ∀ {s s' : Store} {m : ArtistPayoutMethod}, I s →
      Tx.updateMethodOf artistUserId (PayoutMethodsService.verifiedRow adminUserId s.clock) s =
        .ok (m, s') → G s s') :
    Guarantees I G (PayoutMethodsService.verify artistUserId adminUserId) := by
  refine (guarantees_read hG _).bind fun found ↦ ?_
  split
  · trivial
  · split
    · trivial
    · refine guarantees_transaction hG fun s _ _ hs h ↦ ?_
      rw [Tx.bind_ok (Tx.now_apply s)] at h
      exact hverify hs h

theorem guarantees_reject (hG : ∀ s, I s → G s s) (artistUserId : ℕ)
    (hreject : ∀ {s s' : Store} {m : ArtistPayoutMethod}, I s →
      Tx.updateMethodOf artistUserId PayoutMethodsService.rejectedRow s = .ok (m, s') → G s s') :
    Guarantees I G (PayoutMethodsService.reject artistUserId) := by
  refine (guarantees_read hG _).bind fun found ↦ ?_
  split
  · trivial
  · split
    · trivial
    · exact guarantees_transaction hG fun _ _ _ hs h ↦ hreject hs h

end Guarantees

theorem PayoutMethodCall.guarantees (encrypt : String → String) (c : PayoutMethodCall) :
    Guarantees I MethodWrite (c.program encrypt) := by
  cases c with
  | upsert input =>
      exact (guarantees_upsert (fun s _ ↦ .refl s) encrypt input
        (fun _ _ h ↦ methodWrite_update h) fun _ _ h ↦ methodWrite_create h).discard
  | verify artistUserId adminUserId =>
      exact (guarantees_verify (fun s _ ↦ .refl s) artistUserId adminUserId
        fun _ h ↦ methodWrite_update h).discard
  | reject artistUserId =>
      exact (guarantees_reject (fun s _ ↦ .refl s) artistUserId
        fun _ h ↦ methodWrite_update h).discard

theorem PayoutMethodCall.silent (encrypt : String → String) (c : PayoutMethodCall) :
    AsksOnly (fun _ ↦ False) (c.program encrypt) := by
  cases c with
  | upsert input =>
      refine AsksOnly.discard ((asksOnly_read _).bind fun encrypted ↦ ?_)
      refine (asksOnly_read _).bind fun found ↦ ?_
      cases found with
      | none => exact asksOnly_transaction _
      | some row => exact asksOnly_transaction _
  | verify artistUserId adminUserId =>
      refine AsksOnly.discard ((asksOnly_read _).bind fun found ↦ ?_)
      split
      · trivial
      · split
        · trivial
        · exact asksOnly_transaction _
  | reject artistUserId =>
      refine AsksOnly.discard ((asksOnly_read _).bind fun found ↦ ?_)
      split
      · trivial
      · split
        · trivial
        · exact asksOnly_transaction _

/-! ## Entering and verifying bank details -/

/-- The details entered are there afterwards, unverified. -/
theorem upsert_run (encrypt : String → String) (input : UpsertPayoutMethodInput)
    (answers : ℕ → GatewayReply) (s : Store) :
    ∃ m s', (PayoutMethodsService.upsert encrypt input).run (.healthy answers) s =
        ⟨.ok m, s', .healthy answers, []⟩ ∧ MethodWrite s s' ∧
      s'.methodOf? input.artistUserId = some m ∧ m.isVerified = false ∧
      m.accountNumberEncrypted = encrypt input.accountNumber := by
  unfold PayoutMethodsService.upsert
  rw [run_bind_ok_nil (run_read_healthy _ answers s),
    run_bind_ok_nil (run_read_healthy _ answers s)]
  cases hrow : s.methodOf? input.artistUserId with
  | some row =>
      have htx := Tx.updateMethodOf_apply
        (f := PayoutMethodsService.newDetails input (encrypt input.accountNumber)) hrow
      refine ⟨_, _, run_transaction rfl htx, methodWrite_update htx, ?_, rfl, rfl⟩
      exact Table.find_update_self
        (f := PayoutMethodsService.newDetails input (encrypt input.accountNumber))
        (fun _ ↦ rfl) hrow
  | none =>
      let row := PayoutMethodsService.newMethod input (encrypt input.accountNumber)
      have htx : Tx.createArtistPayoutMethod row s = _ := Tx.createArtistPayoutMethod_apply hrow
      refine ⟨_, _, run_transaction rfl htx, methodWrite_create htx, ?_, rfl, rfl⟩
      have hnew : ∀ x ∈ s.artistPayoutMethods, x.artistUserId ≠ input.artistUserId :=
        Table.find_eq_none.mp hrow
      exact Table.find_append_new (r := PayoutMethodsService.newMethod input
        (encrypt input.accountNumber) s.nextId s.clock) hnew

/-- Details that are there are verified afterwards. -/
theorem verify_run {artistUserId : ℕ} (adminUserId : ℕ) {m : ArtistPayoutMethod}
    (answers : ℕ → GatewayReply) {s : Store} (hm : s.methodOf? artistUserId = some m) :
    ∃ m' s', (PayoutMethodsService.verify artistUserId adminUserId).run (.healthy answers) s =
        ⟨.ok m', s', .healthy answers, []⟩ ∧ MethodWrite s s' ∧
      s'.methodOf? artistUserId = some m' ∧ m'.isVerified = true ∧
      m'.accountNumberEncrypted = m.accountNumberEncrypted := by
  unfold PayoutMethodsService.verify
  rw [run_bind_ok_nil (run_read_healthy _ answers s), hm]
  dsimp only
  cases hv : m.isVerified with
  | true => exact ⟨m, s, rfl, .refl s, hm, hv, rfl⟩
  | false =>
      have htx := Tx.updateMethodOf_apply
        (f := PayoutMethodsService.verifiedRow adminUserId s.clock) hm
      refine ⟨_, _, run_transaction rfl ((Tx.bind_ok (Tx.now_apply s)).trans htx),
        methodWrite_update htx, ?_, rfl, rfl⟩
      exact Table.find_update_self (f := PayoutMethodsService.verifiedRow adminUserId s.clock)
        (fun _ ↦ rfl) hm

end Programs

end GearshPayments

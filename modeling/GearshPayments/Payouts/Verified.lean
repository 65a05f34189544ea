import GearshPayments.Payouts.DeadEnds
import GearshPayments.Resumption.Actions
import Mathlib.Data.List.Induction

/-!
# Verified bank details

An admin's verification reads the bank details of an artist and then sets the flag by the
artist's id alone, while the artist may enter new details in between.  Where every write that
sets the flag finds the details that its call has read, what is verified is what an admin has
seen, and the dispatcher pays to nothing else (`verified_as_read`).  The service does not see to
that (`verified_unread`).
-/

namespace GearshPayments

open Resumption PayoutMethodsService

/-- What an admin verifies. -/
structure BankDetails where
  bankName : String
  accountHolderName : String
  accountNumberEncrypted : String
  branchCode : String
  accountType : BankAccountType
deriving DecidableEq

def ArtistPayoutMethod.details (m : ArtistPayoutMethod) : BankDetails where
  bankName := m.bankName
  accountHolderName := m.accountHolderName
  accountNumberEncrypted := m.accountNumberEncrypted
  branchCode := m.branchCode
  accountType := m.accountType

/-- The gateway is asked for the details alone. -/
theorem paymentInput_congr {m m' : ArtistPayoutMethod} (h : m.details = m'.details)
    (payout : Payout)
    (accountNumber : String) : m.accountNumberEncrypted = m'.accountNumberEncrypted ∧
      PayoutDispatcherJob.paymentInput payout m accountNumber =
        PayoutDispatcherJob.paymentInput payout m' accountNumber := by
  have hbank : m.bankName = m'.bankName := congrArg BankDetails.bankName h
  have hholder : m.accountHolderName = m'.accountHolderName :=
    congrArg BankDetails.accountHolderName h
  have hbranch : m.branchCode = m'.branchCode := congrArg BankDetails.branchCode h
  have htype : m.accountType = m'.accountType := congrArg BankDetails.accountType h
  refine ⟨congrArg BankDetails.accountNumberEncrypted h, ?_⟩
  rw [PayoutDispatcherJob.paymentInput, PayoutDispatcherJob.paymentInput, hbank, hholder, hbranch,
    htype]

/-! ## Calls that verify nothing -/

namespace Store

variable {s s' : Store}

/-- What is verified after the step was verified before, with the same details. -/
def VerifiesNothing (s s' : Store) : Prop :=
  ∀ a m', s'.methodOf? a = some m' → m'.isVerified = true →
    ∃ m, s.methodOf? a = some m ∧ m.isVerified = true ∧ m'.details = m.details

theorem VerifiesNothing.of_map {f : ArtistPayoutMethod → ArtistPayoutMethod}
    (hf : ∀ m, (f m).isVerified = m.isVerified ∧ (f m).details = m.details)
    (h : ∀ a, s'.methodOf? a = (s.methodOf? a).map f) : s.VerifiesNothing s' := by
  intro a m' hm' hv
  rw [h] at hm'
  obtain ⟨m, hm, rfl⟩ := Option.map_eq_some_iff.mp hm'
  exact ⟨m, hm, (hf m).1.symm.trans hv, (hf m).2⟩

theorem VerifiesNothing.of_same (h : s'.artistPayoutMethods = s.artistPayoutMethods) :
    s.VerifiesNothing s' := by
  intro a m' hm' hv
  unfold methodOf? at hm'
  rw [h] at hm'
  exact ⟨m', hm', hv, rfl⟩

theorem VerifiesNothing.refl (s : Store) : s.VerifiesNothing s := .of_same rfl

/-- The bank details of the artists after an update of those of one. -/
theorem methodOf?_update {f : ArtistPayoutMethod → ArtistPayoutMethod}
    (hf : ∀ m, (f m).artistUserId = m.artistUserId) {b : ℕ}
    (h : s'.artistPayoutMethods =
      Table.update ArtistPayoutMethod.artistUserId b f s.artistPayoutMethods) (a : ℕ) :
    s'.methodOf? a = if a = b then (s.methodOf? a).map f else s.methodOf? a := by
  unfold methodOf?
  rw [h, Table.find_update hf]

/-- An update that leaves the details of an artist unverified. -/
theorem VerifiesNothing.of_unverified {f : ArtistPayoutMethod → ArtistPayoutMethod}
    (hf : ∀ m, (f m).artistUserId = m.artistUserId) (hv : ∀ m, (f m).isVerified = false) {b : ℕ}
    (h : s'.artistPayoutMethods =
      Table.update ArtistPayoutMethod.artistUserId b f s.artistPayoutMethods) :
    s.VerifiesNothing s' := by
  intro a m' hm' hm
  rw [methodOf?_update hf h] at hm'
  split at hm'
  · obtain ⟨m, -, rfl⟩ := Option.map_eq_some_iff.mp hm'
    exact absurd hm (by simp [hv])
  · exact ⟨m', hm', hm, rfl⟩

end Store

theorem rules_verifiesNothing : PayoutRules (fun _ ↦ True) Store.VerifiesNothing where
  refl := fun s _ ↦ .refl s
  fail := by
    intro payout reason failedAt s s' u _ h
    cases h
    exact .of_same rfl
  succeed := by
    intro payout gatewayPayoutId methodId completedAt s s' u _ h
    obtain ⟨row, method, -, -, rfl⟩ := PayoutDispatcherJob.of_writeSuccess_ok h
    let used : ArtistPayoutMethod → ArtistPayoutMethod := fun m ↦
      if m.id = methodId then { m with lastUsedAt := some completedAt } else m
    have hkeys : ∀ m, (used m).artistUserId = m.artistUserId := by
      intro m
      unfold used
      split <;> rfl
    refine .of_map (f := used) (fun m ↦ ?_) fun a ↦ Table.find_map hkeys a s.artistPayoutMethods
    unfold used
    split
    · exact ⟨rfl, rfl⟩
    · exact ⟨rfl, rfl⟩
  claim := by
    intro payout s s' count _ h
    cases h
    exact .of_same rfl
  requeue := by
    intro row s s' count _ h
    cases h
    exact .of_same rfl
  update := by
    intro id f s s' row _ _ h
    cases hrow : s.payout? id with
    | none => simp [Tx.updatePayout, hrow] at h
    | some r =>
        rw [Tx.updatePayout_apply hrow] at h
        cases h
        exact .of_same rfl
  tick := fun _ _ ↦ .of_same rfl

/-- The call is a verification of an artist's bank details. -/
def EngineCall.Verifies (a : ℕ) (c : EngineCall) : Prop :=
  ∃ adminUserId, c = .method (.verify a adminUserId)

/-- No other call verifies anything. -/
theorem EngineCall.verifiesNothing (config : EngineConfig) {c : EngineCall}
    (hc : ∀ a, ¬c.Verifies a) :
    Guarantees (fun _ ↦ True) Store.VerifiesNothing (c.program config) := by
  cases c with
  | service c =>
      have hq : Guarantees (fun _ ↦ True) QueueWrite (c.program config.system).toEngine :=
        (c.guarantees_queue config.system).relabel
      exact hq.mono (fun _ hs ↦ hs) fun _ _ _ h ↦ .of_same h.methods
  | payout c => exact rules_verifiesNothing.guarantees config.payouts c
  | method c =>
      cases c with
      | upsert input =>
          refine (guarantees_upsert (fun s _ ↦ .refl s) config.encrypt input ?_ ?_).discard
          · intro s s' m encrypted _ h
            obtain ⟨row, -, rfl⟩ := Tx.of_updateMethodOf_ok h
            exact .of_unverified (f := newDetails input encrypted) (fun _ ↦ rfl) (fun _ ↦ rfl) rfl
          · intro s s' m encrypted _ h
            obtain ⟨-, rfl⟩ := Tx.of_createArtistPayoutMethod_ok h
            intro a m' hm' hv
            unfold Store.methodOf? at hm'
            rw [Table.find_append] at hm'
            rcases Option.or_eq_some_iff.mp hm' with hm' | ⟨-, hm'⟩
            · exact ⟨m', hm', hv, rfl⟩
            · obtain ⟨hmem, -⟩ := Table.find_some hm'
              rw [List.mem_singleton.mp hmem] at hv
              cases hv
      | verify a adminUserId => exact absurd ⟨adminUserId, rfl⟩ (hc a)
      | reject a =>
          refine (guarantees_reject (fun s _ ↦ .refl s) a ?_).discard
          intro s s' m _ h
          obtain ⟨row, -, rfl⟩ := Tx.of_updateMethodOf_ok h
          exact .of_unverified (f := rejectedRow) (fun _ ↦ rfl) (fun _ ↦ rfl) rfl

/-! ## Verification, from its read to its write -/

section Runs

variable (config : EngineConfig) (s : Store) (calls : List EngineCall)

/-- The pool after a schedule. -/
abbrev reachedPool (ts : List (Turn GatewayReply Failure)) : EnginePool :=
  Pool.run next (EngineCall.pool config s calls) ts

/-- The call `i` verifies bank details of the artist, it is about to start, and what it will read
is the row given. -/
def VerifyReads (ts : List (Turn GatewayReply Failure)) (i a : ℕ) (m : ArtistPayoutMethod) : Prop :=
  (∃ c, calls[i]? = some c ∧ c.Verifies a ∧
      (reachedPool config s calls ts).threads[i]? = some (c.program config)) ∧
    (reachedPool config s calls ts).store.methodOf? a = some m

/-- The call reads the row after `ts₁` and writes after `ts₂` more turns. -/
def VerifyWrites (ts₁ ts₂ : List (Turn GatewayReply Failure)) (i a : ℕ) (m : ArtistPayoutMethod) :
    Prop :=
  VerifyReads config s calls ts₁ i a m ∧
    ((reachedPool config s calls (ts₁ ++ ⟨i, .act⟩ :: ts₂)).action? ⟨i, .act⟩).isSome = true

/-- Wherever a verification sets the flag, it finds the details that it has read. -/
def FlagsWhatItRead (ts : List (Turn GatewayReply Failure)) : Prop :=
  ∀ ts₁ ts₂ i a m₀ m, ts₁ ++ ⟨i, .act⟩ :: (ts₂ ++ [⟨i, .act⟩]) <+: ts →
    VerifyWrites config s calls ts₁ ts₂ i a m₀ →
      (reachedPool config s calls (ts₁ ++ ⟨i, .act⟩ :: ts₂)).store.methodOf? a = some m →
        m.isVerified = false → m.details = m₀.details

/-- The artist's flag was set by the write of a verification that had read these details, and it
has been set ever since. -/
def FlaggedAsRead (ts : List (Turn GatewayReply Failure)) (a : ℕ) (details : BankDetails) : Prop :=
  ∃ ts₁ ts₂ ts₃ i m₀, ts = ts₁ ++ ⟨i, .act⟩ :: (ts₂ ++ ⟨i, .act⟩ :: ts₃) ∧
    VerifyWrites config s calls ts₁ ts₂ i a m₀ ∧ m₀.details = details ∧
    (reachedPool config s calls (ts₁ ++ ⟨i, .act⟩ :: ts₂)).store.hasVerifiedMethod a = false ∧
    ∀ ts₄, ts₄ <+: ts₃ → (reachedPool config s calls
      (ts₁ ++ ⟨i, .act⟩ :: (ts₂ ++ ⟨i, .act⟩ :: ts₄))).store.hasVerifiedMethod a = true

/-- What is left of a verification that has found unverified details. -/
def verifyWrite (a adminUserId : ℕ) : Engine Unit :=
  discard (transaction (do
    Tx.updateMethodOf a (verifiedRow adminUserId (← Tx.now))) : Engine ArtistPayoutMethod)

/-- Where a verification stands. -/
inductive VerifyStage (ts : List (Turn GatewayReply Failure)) (i a adminUserId : ℕ) : Prop
  | waiting (h : (reachedPool config s calls ts).threads[i]? =
      some ((EngineCall.method (.verify a adminUserId)).program config))
  | writing {ts₁ ts₂ : List (Turn GatewayReply Failure)} {m₀ : ArtistPayoutMethod}
    (split : ts = ts₁ ++ ⟨i, .act⟩ :: ts₂) (reads : VerifyReads config s calls ts₁ i a m₀)
    (h : (reachedPool config s calls ts).threads[i]? = some (verifyWrite a adminUserId))
  | ended {r : Except Failure Unit}
    (h : (reachedPool config s calls ts).threads[i]? = some (ofExcept r))

variable {config s calls}

/-- The first step of a verification. -/
theorem next_verify {a adminUserId : ℕ} {m : Move GatewayReply Failure} {σ s' : Store}
    {p : Engine Unit} {x : Option (GatewayRequest × GatewayReply)}
    (h : next ((EngineCall.method (.verify a adminUserId)).program config) m σ = some (s', p, x)) :
    s' = σ ∧ ((∃ r, p = ofExcept r) ∨
      (m = .act ∧ p = verifyWrite a adminUserId ∧ (σ.methodOf? a).isSome = true)) := by
  obtain ⟨hs, ⟨e, hp⟩ | ⟨hm, hp⟩⟩ := of_next_read h
  · exact ⟨hs, .inl ⟨.error e, hp⟩⟩
  · refine ⟨hs, ?_⟩
    rw [hp]
    cases hf : σ.methodOf? a with
    | none => exact .inl ⟨.error (Failure.ofCode .notFound), rfl⟩
    | some row =>
        dsimp only
        cases hv : row.isVerified with
        | true =>
            refine .inl ⟨.ok (), ?_⟩
            rw [if_pos rfl]
            rfl
        | false =>
            refine .inr ⟨hm, ?_, rfl⟩
            rw [if_neg (by decide)]
            rfl

/-- Its second step, the write. -/
theorem next_verifyWrite {a adminUserId : ℕ} {m : Move GatewayReply Failure} {σ s' : Store}
    {p : Engine Unit} {x : Option (GatewayRequest × GatewayReply)}
    (h : next (verifyWrite a adminUserId) m σ = some (s', p, x)) :
    (∃ r, p = ofExcept r) ∧ (s' = σ ∨ (m = .act ∧ s' =
      { σ with
        artistPayoutMethods := Table.update ArtistPayoutMethod.artistUserId a
          (verifiedRow adminUserId σ.clock) σ.artistPayoutMethods })) := by
  obtain ⟨hp, hs⟩ := of_next_transaction h
  refine ⟨hp, ?_⟩
  rcases hs with rfl | ⟨hm, row, ht⟩
  · exact .inl rfl
  · rw [Tx.bind_ok (Tx.now_apply σ)] at ht
    obtain ⟨row', -, rfl⟩ := Tx.of_updateMethodOf_ok ht
    exact .inr ⟨hm, rfl⟩

variable {ts : List (Turn GatewayReply Failure)} {i a adminUserId : ℕ}

theorem reachedPool_append (ts : List (Turn GatewayReply Failure)) (t : Turn GatewayReply Failure) :
    reachedPool config s calls (ts ++ [t]) = Pool.step next (reachedPool config s calls ts) t :=
  Transition.run_append ..

/-- The store after the write of a verification. -/
def flagged (a adminUserId : ℕ) (s : Store) : Store :=
  { s with
    artistPayoutMethods := Table.update ArtistPayoutMethod.artistUserId a
      (verifiedRow adminUserId s.clock) s.artistPayoutMethods }

/-- What the turn does if it is one of the verification: nothing to the store, or the write. -/
def VerifyTurn (config : EngineConfig) (s : Store) (calls : List EngineCall)
    (ts : List (Turn GatewayReply Failure)) (i a adminUserId : ℕ) (t : Turn GatewayReply Failure) :
    Prop :=
  let s' := (reachedPool config s calls (ts ++ [t])).store
  let σ := (reachedPool config s calls ts).store
  s' = σ ∨ ∃ ts₁ ts₂ m₀, ts = ts₁ ++ ⟨i, .act⟩ :: ts₂ ∧ t = ⟨i, .act⟩ ∧
    VerifyWrites config s calls ts₁ ts₂ i a m₀ ∧ s' = flagged a adminUserId σ

theorem split_append {ts₁ ts₂ : List (Turn GatewayReply Failure)} {u : Turn GatewayReply Failure}
    (h : ts = ts₁ ++ u :: ts₂) (t : Turn GatewayReply Failure) :
    ts ++ [t] = ts₁ ++ u :: (ts₂ ++ [t]) := by
  rw [h, List.append_assoc, List.cons_append]

/-- A thread that stays as it is. -/
theorem VerifyStage.frame (h : VerifyStage config s calls ts i a adminUserId)
    {t : Turn GatewayReply Failure}
    (hsame : (reachedPool config s calls (ts ++ [t])).threads[i]? =
      (reachedPool config s calls ts).threads[i]?) :
    VerifyStage config s calls (ts ++ [t]) i a adminUserId := by
  cases h with
  | waiting h => exact .waiting (hsame.trans h)
  | writing split reads h => exact .writing (split_append split t) reads (hsame.trans h)
  | ended h => exact .ended (hsame.trans h)

theorem VerifyStage.step (h : VerifyStage config s calls ts i a adminUserId)
    (hi : calls[i]? = some (.method (.verify a adminUserId))) (t : Turn GatewayReply Failure) :
    VerifyStage config s calls (ts ++ [t]) i a adminUserId ∧
      (t.thread = i → VerifyTurn config s calls ts i a adminUserId t) := by
  have happend : reachedPool config s calls (ts ++ [t]) =
      Pool.step next (reachedPool config s calls ts) t := reachedPool_append ts t
  obtain ⟨p, hget⟩ : ∃ p, (reachedPool config s calls ts).threads[i]? = some p := by
    cases h with
    | waiting h => exact ⟨_, h⟩
    | writing _ _ h => exact ⟨_, h⟩
    | ended h => exact ⟨_, h⟩
  rcases Pool.step_thread next t hget with ⟨hsame, hstore⟩ | ⟨ht, s', p', x, hnext, hthread, hstore⟩
  · rw [← happend] at hsame hstore
    exact ⟨h.frame (hsame.trans hget.symm), fun ht ↦ .inl (hstore ht)⟩
  · rw [← happend] at hthread hstore
    cases h with
    | waiting h =>
        cases h.symm.trans hget
        obtain ⟨hs, ⟨r, hr⟩ | ⟨hm, hp, hf⟩⟩ := next_verify hnext
        · rw [hr] at hthread
          exact ⟨.ended hthread, fun _ ↦ .inl (hstore.trans hs)⟩
        · rw [hp] at hthread
          obtain ⟨m₀, hf⟩ := Option.isSome_iff_exists.mp hf
          have hsplit : ts ++ [t] = ts ++ ⟨i, .act⟩ :: [] := by rw [← ht, ← hm]
          exact ⟨.writing hsplit ⟨⟨_, hi, ⟨_, rfl⟩, h⟩, hf⟩ hthread, fun _ ↦ .inl (hstore.trans hs)⟩
    | writing split reads h =>
        cases h.symm.trans hget
        obtain ⟨⟨r, hr⟩, hs⟩ := next_verifyWrite hnext
        rw [hr] at hthread
        refine ⟨.ended hthread, fun _ ↦ ?_⟩
        rcases hs with hs | ⟨hm, hs⟩
        · exact .inl (hstore.trans hs)
        · have ht' : t = ⟨i, .act⟩ := by
            rw [← ht, ← hm]
          refine .inr ⟨_, _, _, split, ht', ⟨reads, ?_⟩, hstore.trans hs⟩
          rw [← split, Pool.action?]
          dsimp only
          rw [h]
          rfl
    | ended h =>
        cases h.symm.trans hget
        exact (of_next_ofExcept hnext).elim

theorem verifyStage_run (hi : calls[i]? = some (.method (.verify a adminUserId)))
    (ts : List (Turn GatewayReply Failure)) : VerifyStage config s calls ts i a adminUserId := by
  induction ts using List.reverseRecOn with
  | nil =>
      refine .waiting ?_
      change (calls.map _)[i]? = _
      rw [List.getElem?_map, hi]
      rfl
  | append_singleton ts t ih => exact (ih.step hi t).1

/-- A turn verifies nothing, unless it is the write of a verification. -/
theorem turn_cases (config : EngineConfig) (s : Store) (calls : List EngineCall)
    (ts : List (Turn GatewayReply Failure)) (t : Turn GatewayReply Failure) :
    (reachedPool config s calls ts).store.VerifiesNothing
        (reachedPool config s calls (ts ++ [t])).store ∨
      ∃ i a adminUserId, calls[i]? = some (.method (.verify a adminUserId)) ∧ t.thread = i ∧
        VerifyTurn config s calls ts i a adminUserId t := by
  rw [reachedPool_append]
  cases hc : calls[t.thread]? with
  | none =>
      left
      have hnone : (reachedPool config s calls ts).threads[t.thread]? = none := by
        rw [List.getElem?_eq_none_iff, Pool.length_threads_run]
        change (calls.map _).length ≤ _
        rw [List.length_map]
        exact List.getElem?_eq_none_iff.mp hc
      unfold Pool.step
      rw [hnone]
      exact .refl _
  | some c =>
      by_cases hv : ∃ a, c.Verifies a
      · obtain ⟨a, adminUserId, rfl⟩ := hv
        refine .inr ⟨t.thread, a, adminUserId, hc, rfl, ?_⟩
        exact ((verifyStage_run hc ts).step hc t).2 rfl
      · left
        have hinit : (EngineCall.pool config s calls).threads[t.thread]? =
            some (c.program config) := by
          change (calls.map _)[t.thread]? = _
          rw [List.getElem?_map, hc]
          rfl
        exact Pool.guarantees_turn (fun s _ ↦ .refl s) (fun p _ ↦ keeps_true p) trivial hinit
          (EngineCall.verifiesNothing config fun a ha ↦ hv ⟨a, ha⟩) ts rfl

/-- The flag stays set. -/
theorem FlaggedAsRead.append {details : BankDetails}
    (h : FlaggedAsRead config s calls ts a details) {t : Turn GatewayReply Failure}
    (hv : (reachedPool config s calls (ts ++ [t])).store.hasVerifiedMethod a = true) :
    FlaggedAsRead config s calls (ts ++ [t]) a details := by
  obtain ⟨ts₁, ts₂, ts₃, i, m₀, hts, hw, hd, hbefore, hsince⟩ := h
  have hsplit : ts ++ [t] = ts₁ ++ ⟨i, .act⟩ :: (ts₂ ++ ⟨i, .act⟩ :: (ts₃ ++ [t])) := by
    rw [hts, List.append_assoc, List.cons_append, List.append_assoc, List.cons_append]
  refine ⟨ts₁, ts₂, ts₃ ++ [t], i, m₀, hsplit, hw, hd, hbefore, fun ts₄ hp ↦ ?_⟩
  rcases List.prefix_concat_iff.mp hp with rfl | hp
  · rw [← hsplit]
    exact hv
  · exact hsince ts₄ hp

theorem hasVerifiedMethod_of_some {σ : Store} {m : ArtistPayoutMethod} (hm : σ.methodOf? a = some m)
    (hv : m.isVerified = true) : σ.hasVerifiedMethod a = true := by
  rw [Store.hasVerifiedMethod, hm]
  exact hv

theorem flaggedAsRead_run (hs : ∀ a, s.hasVerifiedMethod a = false)
    (ts : List (Turn GatewayReply Failure)) (hflags : FlagsWhatItRead config s calls ts) (a : ℕ)
    {m : ArtistPayoutMethod} (hm : (reachedPool config s calls ts).store.methodOf? a = some m)
    (hv : m.isVerified = true) : FlaggedAsRead config s calls ts a m.details := by
  induction ts using List.reverseRecOn generalizing a m with
  | nil =>
      have hset := hasVerifiedMethod_of_some hm hv
      rw [show (reachedPool config s calls []).store = s from rfl, hs] at hset
      cases hset
  | append_singleton ts t ih =>
      have hset := hasVerifiedMethod_of_some hm hv
      have hrest := ih fun ts₁ ts₂ i b m₀ m hp ↦
        hflags ts₁ ts₂ i b m₀ m (hp.trans (List.prefix_append ts [t]))
      have hkept : ∀ m₁, (reachedPool config s calls ts).store.methodOf? a = some m₁ →
          m₁.isVerified = true → m.details = m₁.details →
            FlaggedAsRead config s calls (ts ++ [t]) a m.details := by
        intro m₁ hm₁ hv₁ hd
        rw [hd]
        exact (hrest a hm₁ hv₁).append hset
      rcases turn_cases config s calls ts t with hsame | ⟨i, b, adminUserId, -, -, hturn⟩
      · obtain ⟨m₁, hm₁, hv₁, hd⟩ := hsame a m hm hv
        exact hkept m₁ hm₁ hv₁ hd
      · rcases hturn with hsame | ⟨ts₁, ts₂, m₀, hts, ht, hw, hwrite⟩
        · rw [hsame] at hm
          exact hkept m hm hv rfl
        · -- the write of a verification
          rw [hwrite, Store.methodOf?_update (f := verifiedRow adminUserId
            (reachedPool config s calls ts).store.clock) (fun _ ↦ rfl) rfl] at hm
          split at hm
          case isFalse => exact hkept m hm hv rfl
          case isTrue hab =>
            subst hab
            obtain ⟨m₁, hm₁, rfl⟩ := Option.map_eq_some_iff.mp hm
            cases hv₁ : m₁.isVerified with
            | true => exact hkept m₁ hm₁ hv₁ rfl
            | false =>
                have hsplit : ts ++ [t] = ts₁ ++ ⟨i, .act⟩ :: (ts₂ ++ ⟨i, .act⟩ :: []) := by
                  rw [split_append hts t, ht]
                rw [hts] at hm₁
                refine ⟨ts₁, ts₂, [], i, m₀, hsplit, hw, ?_, ?_, fun ts₄ hp ↦ ?_⟩
                · exact (hflags ts₁ ts₂ i a m₀ m₁ ⟨[], by rw [List.append_nil, hsplit]⟩ hw hm₁
                    hv₁).symm
                · rw [Store.hasVerifiedMethod, hm₁]
                  exact hv₁
                · rw [List.prefix_nil.mp hp, ← hsplit]
                  exact hset

/-! ## What the dispatcher pays to -/

/-- The request is for a payout that was there at some point of the run, to details that a
verification of its artist's details has read in the run. -/
def PaysToRead (config : EngineConfig) (s : Store) (calls : List EngineCall)
    (ts : List (Turn GatewayReply Failure)) (q : GatewayRequest) : Prop :=
  ∀ input, q = .adhocPayment input → ∃ ts₀ payout ts₁ i m₀ accountNumber, ts₀ <+: ts ∧
    payout ∈ (reachedPool config s calls ts₀).store.payouts ∧ ts₁ ++ [⟨i, .act⟩] <+: ts ∧
    VerifyReads config s calls ts₁ i payout.artistId m₀ ∧
    config.payouts.decrypt m₀.accountNumberEncrypted = .ok accountNumber ∧
    input = PayoutDispatcherJob.paymentInput payout m₀ accountNumber

section Dispatch

variable {K : Payout → Prop} {R : ℕ → BankDetails → Prop} {C : GatewayRequest → Prop}

/-- The payouts of the store are in `K`, and the details that are verified in `R`. -/
def PayoutsIn (K : Payout → Prop) (R : ℕ → BankDetails → Prop) (s : Store) : Prop :=
  (∀ p ∈ s.payouts, K p) ∧
    ∀ a m, s.methodOf? a = some m → m.isVerified = true → R a m.details

theorem asksOnly_attemptPayment (adhoc : AdhocConfig) {input : PayFastAdhocPaymentInput}
    (hC : C (.adhocPayment input)) (attempts : ℕ) (lastFailure : Option PayFastAdhocPaymentResult) :
    AsksOnly C (PayoutDispatcherJob.attemptPayment adhoc input attempts lastFailure) := by
  induction attempts generalizing lastFailure with
  | zero => trivial
  | succ attempts ih =>
      have hone : AsksOnly C (PayFastClient.adhocPayment adhoc input) := by
        unfold PayFastClient.adhocPayment
        split
        · trivial
        · split
          · trivial
          · exact ⟨hC, fun _ ↦ trivial⟩
      refine hone.bind fun result ↦ ?_
      split
      · trivial
      · split
        · exact ih _
        · trivial

/-- A dispatcher asks for a payout of its batch, to the verified details that it has read. -/
theorem conforms_dispatchOne_asks (config : PayoutsConfig)
    (hC : ∀ payout (m : ArtistPayoutMethod) accountNumber, K payout →
      R payout.artistId m.details → config.decrypt m.accountNumberEncrypted = .ok accountNumber →
        C (.adhocPayment (PayoutDispatcherJob.paymentInput payout m accountNumber)))
    {payout : Payout} (hK : K payout) :
    Conforms (askMonitor (PayoutsIn K R) C) (PayoutDispatcherJob.dispatchOne config payout) ()
      fun _ _ ↦ True := by
  have hfail : ∀ reason, AsksOnly C (PayoutDispatcherJob.persistFailure payout reason) := fun _ ↦
    (asksOnly_read _).bind fun _ ↦ asksOnly_transaction _
  refine Conforms.read_bind (fun _ ↦ trivial) (fun σ hσ ↦ ?_) fun _ ↦ trivial
  cases hm : σ.methodOf? payout.artistId with
  | none =>
      refine AsksOnly.conforms ?_
      exact (hfail _).bind fun _ ↦ trivial
  | some m =>
      dsimp only
      cases hv : m.isVerified with
      | false =>
          refine AsksOnly.conforms ?_
          exact (hfail _).bind fun _ ↦ trivial
      | true =>
          refine AsksOnly.conforms ((asksOnly_transaction _).bind fun claimed ↦ ?_)
          split
          · trivial
          · refine asksOnly_read_bind fun _ ↦ ?_
            cases hd : config.decrypt m.accountNumberEncrypted with
            | error e => trivial
            | ok accountNumber =>
                have hask := hC payout m accountNumber hK (hσ.2 _ m hm hv) hd
                refine (asksOnly_attemptPayment config.payfast hask _ _).bind fun result ↦ ?_
                split
                · exact (hfail _).bind fun _ ↦ trivial
                · exact ((asksOnly_read _).bind fun _ ↦ asksOnly_transaction _).bind fun _ ↦ trivial

theorem conforms_dispatchAll_asks (config : PayoutsConfig)
    (hC : ∀ payout (m : ArtistPayoutMethod) accountNumber, K payout →
      R payout.artistId m.details → config.decrypt m.accountNumberEncrypted = .ok accountNumber →
        C (.adhocPayment (PayoutDispatcherJob.paymentInput payout m accountNumber)))
    {batch : List Payout} (hK : ∀ p ∈ batch, K p) (result : DispatchTickResult) :
    Conforms (askMonitor (PayoutsIn K R) C) (PayoutDispatcherJob.dispatchAll config batch result) ()
      fun _ _ ↦ True := by
  induction batch generalizing result with
  | nil => trivial
  | cons payout batch ih =>
      obtain ⟨hpayout, hbatch⟩ := List.forall_mem_cons.mp hK
      have hone : Conforms (askMonitor (PayoutsIn K R) C)
          (some <$> PayoutDispatcherJob.dispatchOne config payout) () fun _ _ ↦ True :=
        (conforms_dispatchOne_asks config hC hpayout).map
      have hcaught : Conforms (askMonitor (PayoutsIn K R) C)
          (tryCatchThe Failure (some <$> PayoutDispatcherJob.dispatchOne config payout)
            fun _ ↦ return none) () fun _ _ ↦ True :=
        hone.tryCatch (fun _ _ _ ↦ trivial) fun _ _ _ ↦ trivial
      exact hcaught.bind (fun _ _ _ ↦ ih hbatch _) fun _ _ _ ↦ trivial

/-- Every call asks for refunds, or for payouts as a dispatcher does. -/
theorem EngineCall.conforms_asks (config : EngineConfig)
    (hC : ∀ payout (m : ArtistPayoutMethod) accountNumber, K payout →
      R payout.artistId m.details →
        config.payouts.decrypt m.accountNumberEncrypted = .ok accountNumber →
          C (.adhocPayment (PayoutDispatcherJob.paymentInput payout m accountNumber)))
    (hrefund : ∀ input, C (.refund input)) (c : EngineCall) :
    Conforms (askMonitor (PayoutsIn K R) C) (c.program config) () fun _ _ ↦ True := by
  cases c with
  | service c => exact (AsksOnly.relabel _ _ hrefund (c.program config.system)).conforms
  | method c => exact ((c.silent config.encrypt).mono fun _ h ↦ h.elim).conforms
  | payout c =>
      by_cases hc : c = .dispatch
      · subst hc
        refine Conforms.discard ?_
        unfold PayoutDispatcherJob.cron
        split
        · trivial
        · split
          · trivial
          · refine Conforms.read_bind (fun _ ↦ trivial) (fun σ hσ ↦ ?_) fun _ ↦ trivial
            exact conforms_dispatchAll_asks config.payouts hC
              (fun p hp ↦ hσ.1 p (mem_of_mem_pickCandidates hp).1) _
      · exact ((c.silent hc config.payouts).mono fun _ h ↦ h.elim).conforms

end Dispatch

/-- Where every write that sets a flag finds the details that its verification has read, the
details that are verified are the ones that were read, and the gateway is asked to pay to no
others. -/
theorem verified_as_read (config : EngineConfig) {s : Store}
    (hs : ∀ a, s.hasVerifiedMethod a = false) (calls : List EngineCall)
    {ts : List (Turn GatewayReply Failure)} (hflags : FlagsWhatItRead config s calls ts) :
    (∀ a m, (reachedPool config s calls ts).store.methodOf? a = some m → m.isVerified = true →
      FlaggedAsRead config s calls ts a m.details) ∧
    ∀ x ∈ (reachedPool config s calls ts).log, PaysToRead config s calls ts x.2.1 := by
  refine ⟨fun a m hm hv ↦ flaggedAsRead_run hs ts hflags a hm hv, ?_⟩
  let K : Payout → Prop := fun p ↦
    ∃ ts₀, ts₀ <+: ts ∧ p ∈ (reachedPool config s calls ts₀).store.payouts
  let R : ℕ → BankDetails → Prop := fun a details ↦
    ∃ ts₁ i m₀, ts₁ ++ [⟨i, .act⟩] <+: ts ∧ VerifyReads config s calls ts₁ i a m₀ ∧
      m₀.details = details
  have hI : ∀ ts', ts' <+: ts → PayoutsIn K R (reachedPool config s calls ts').store := by
    intro ts' hp
    refine ⟨fun p hm ↦ ⟨ts', hp, hm⟩, fun a m hm hv ↦ ?_⟩
    have hflags' : FlagsWhatItRead config s calls ts' := fun ts₁ ts₂ i b m₀ m h ↦
      hflags ts₁ ts₂ i b m₀ m (h.trans hp)
    obtain ⟨ts₁, ts₂, ts₃, i, m₀, hts, hw, hd, -⟩ := flaggedAsRead_run hs ts' hflags' a hm hv
    refine ⟨ts₁, i, m₀, List.IsPrefix.trans ?_ hp, hw.1, hd⟩
    exact ⟨ts₂ ++ ⟨i, .act⟩ :: ts₃, by rw [hts, List.append_assoc]; rfl⟩
  refine Pool.asks_run (EngineCall.forall_pool (fun c ↦ ?_) s calls)
    (fun x hx ↦ absurd hx List.not_mem_nil) ts hI
  refine c.conforms_asks config ?_ fun _ _ h ↦ by cases h
  rintro payout m accountNumber ⟨ts₀, hp₀, hmem⟩ ⟨ts₁, i, m₀, hp₁, hreads, hd⟩ hdecrypt input hin
  cases hin
  obtain ⟨hencrypted, hinput⟩ := paymentInput_congr hd payout accountNumber
  refine ⟨ts₀, payout, ts₁, i, m₀, accountNumber, hp₀, hmem, hp₁, hreads, ?_, hinput.symm⟩
  rw [hencrypted]
  exact hdecrypt

end Runs

/-! ## Runs of one artist -/

theorem append_cons_cancel {α : Type*} {t : α} {l k l' k' : List α} (hl : t ∉ l) (hk : t ∉ k)
    (h : l ++ t :: l' = k ++ t :: k') : l = k ∧ l' = k' := by
  rcases List.append_eq_append_iff.mp h with ⟨r, rfl, hr⟩ | ⟨r, rfl, hr⟩
  · rcases r with - | ⟨u, r⟩
    · exact ⟨(List.append_nil l).symm, (List.cons.inj hr).2⟩
    · obtain ⟨rfl, -⟩ := List.cons.inj hr
      simp at hk
  · rcases r with - | ⟨u, r⟩
    · exact ⟨List.append_nil k, (List.cons.inj hr).2.symm⟩
    · obtain ⟨rfl, -⟩ := List.cons.inj hr
      simp at hl

/-- A list in which `t` occurs twice is split at the two occurrences in one way. -/
theorem split_unique {α : Type*} {t : α} (k₁ k₂ k₃ : List α) {l₁ l₂ l₃ : List α}
    (h : l₁ ++ t :: (l₂ ++ t :: l₃) = k₁ ++ t :: (k₂ ++ t :: k₃))
    (h₁ : t ∉ k₁) (h₂ : t ∉ k₂) (h₃ : t ∉ k₃) : l₁ = k₁ ∧ l₂ = k₂ := by
  classical
  have hcount := congrArg (List.count t) h
  simp only [List.count_append, List.count_cons_self, List.count_eq_zero_of_not_mem h₁,
    List.count_eq_zero_of_not_mem h₂, List.count_eq_zero_of_not_mem h₃] at hcount
  have hl₁ : t ∉ l₁ := List.count_eq_zero.mp (by omega)
  have hl₂ : t ∉ l₂ := List.count_eq_zero.mp (by omega)
  obtain ⟨hfirst, hrest⟩ := append_cons_cancel hl₁ h₁ h
  exact ⟨hfirst, (append_cons_cancel hl₂ h₂ hrest).1⟩

namespace Sample

/-- The artist has entered bank details. -/
def entered : Store :=
  { Store.empty 0 10 [] with
    artistPayoutMethods :=
      [{ method with isVerified := false, verifiedAt := none, verifiedBy := none }] }

theorem entered_unverified (a : ℕ) : entered.hasVerifiedMethod a = false := by
  by_cases h : a = 4
  · subst h
    rfl
  · have hnone : entered.methodOf? a = none :=
      Table.find_eq_none.mpr fun m hm hkey ↦ h (by
        rw [List.mem_singleton.mp hm] at hkey
        exact hkey.symm)
    rw [Store.hasVerifiedMethod, hnone]
    rfl

/-- An admin verifies them while the artist enters others. -/
def verifyBesideUpsert : List EngineCall :=
  [.method (.verify 4 9), .method (.upsert ⟨4, "ABSA", "A. Artist", "4050", "632005", .savings⟩)]

/-- The read of the verification, the three steps of the new details, the write. -/
def readThenReplaced : List (Turn GatewayReply Failure) :=
  [⟨0, .act⟩, ⟨1, .act⟩, ⟨1, .act⟩, ⟨1, .act⟩, ⟨0, .act⟩]

/-- The row in the end. -/
def verifiedUnread : ArtistPayoutMethod :=
  { method with
    bankName := "ABSA"
    accountNumberEncrypted := "4050"
    branchCode := "632005"
    accountType := .savings }

/-- A day later, a payout is due. -/
def enteredOwing : Store :=
  { owing .queued with artistPayoutMethods := entered.artistPayoutMethods }

theorem enteredOwing_unverified (a : ℕ) : enteredOwing.hasVerifiedMethod a = false :=
  entered_unverified a

/-- The details are verified and the artist is paid; then others are entered, and an admin
verifies these, too. -/
def verifyPayReplace : List EngineCall :=
  [.method (.verify 4 9), .payout .dispatch,
    .method (.upsert ⟨4, "ABSA", "A. Artist", "4050", "632005", .savings⟩), .method (.verify 4 9)]

def paidInBetween : List (Turn GatewayReply Failure) :=
  List.replicate 2 ⟨0, .act⟩ ++ payingTick 1 ++ List.replicate 3 ⟨2, .act⟩

def paidThenReplaced : List (Turn GatewayReply Failure) :=
  paidInBetween ++ List.replicate 2 ⟨3, .act⟩

theorem flagsWhatItRead_paidThenReplaced :
    FlagsWhatItRead engine enteredOwing verifyPayReplace paidThenReplaced := by
  rintro ts₁ ts₂ i a m₀ m ⟨ts₃, hts⟩ ⟨⟨⟨c, hc, ⟨adminUserId, rfl⟩, -⟩, hm₀⟩, -⟩ hm -
  rw [List.append_assoc, List.cons_append, List.append_assoc, List.singleton_append] at hts
  -- the first and the last call are verifications, and each of them writes right after its read
  have hi : i = 0 ∨ i = 3 := by
    rcases i with - | - | - | - | i
    · exact .inl rfl
    · cases hc
    · cases hc
    · exact .inr rfl
    · cases hc
  rcases hi with rfl | rfl
  · obtain ⟨rfl, rfl⟩ := split_unique [] [] _ hts (by simp) (by simp) (by simp [payingTick])
    exact congrArg ArtistPayoutMethod.details (Option.some.inj (hm.symm.trans hm₀))
  · obtain ⟨rfl, rfl⟩ := split_unique paidInBetween [] [] hts
      (by simp [paidInBetween, payingTick]) (by simp) (by simp)
    exact congrArg ArtistPayoutMethod.details (Option.some.inj (hm.symm.trans hm₀))

end Sample

/-- The artist is paid to the first details, and the others are verified in the end. -/
theorem verified_as_read_sample :
    ((∀ a m, (reachedPool Sample.engine Sample.enteredOwing Sample.verifyPayReplace
        Sample.paidThenReplaced).store.methodOf? a = some m → m.isVerified = true →
      FlaggedAsRead Sample.engine Sample.enteredOwing Sample.verifyPayReplace
        Sample.paidThenReplaced a m.details) ∧
    ∀ x ∈ (reachedPool Sample.engine Sample.enteredOwing Sample.verifyPayReplace
        Sample.paidThenReplaced).log,
      PaysToRead Sample.engine Sample.enteredOwing Sample.verifyPayReplace
        Sample.paidThenReplaced x.2.1) ∧
    paidTimes 1 (reachedPool Sample.engine Sample.enteredOwing Sample.verifyPayReplace
      Sample.paidThenReplaced).log = 1 ∧
    (reachedPool Sample.engine Sample.enteredOwing Sample.verifyPayReplace
      Sample.paidThenReplaced).store.methodOf? 4 = some
        { Sample.verifiedUnread with
          verifiedAt := some 86400000
          lastUsedAt := some 86400000 } :=
  ⟨verified_as_read Sample.engine Sample.enteredOwing_unverified Sample.verifyPayReplace
    Sample.flagsWhatItRead_paidThenReplaced, by decide, by rfl⟩

/-- The details that are verified are not the ones that were read. -/
theorem verified_unread :
    ¬∀ (config : EngineConfig) (s : Store), (∀ a, s.hasVerifiedMethod a = false) →
      ∀ (calls : List EngineCall) (ts : List (Turn GatewayReply Failure)),
        (∀ a m, (reachedPool config s calls ts).store.methodOf? a = some m → m.isVerified = true →
          FlaggedAsRead config s calls ts a m.details) ∧
        ∀ x ∈ (reachedPool config s calls ts).log, PaysToRead config s calls ts x.2.1 := by
  intro h
  obtain ⟨hflag, -⟩ := h Sample.engine Sample.entered Sample.entered_unverified
    Sample.verifyBesideUpsert Sample.readThenReplaced
  obtain ⟨ts₁, ts₂, ts₃, i, m₀, hts, hw, hd, -⟩ := hflag 4 Sample.verifiedUnread rfl rfl
  obtain ⟨⟨⟨c, hc, ⟨adminUserId, rfl⟩, -⟩, hm₀⟩, -⟩ := hw
  -- only the first call is a verification, and of its two turns the first one is the read
  have hi : i = 0 := by
    rcases i with - | - | i
    · rfl
    · cases hc
    · cases hc
  subst hi
  have hsplit : ts₁ ++ ⟨0, .act⟩ :: (ts₂ ++ ⟨0, .act⟩ :: ts₃) =
      [] ++ ⟨0, .act⟩ :: ([⟨1, .act⟩, ⟨1, .act⟩, ⟨1, .act⟩] ++ ⟨0, .act⟩ :: []) := hts.symm
  obtain ⟨rfl, -⟩ := split_unique _ _ _ hsplit (by simp) (by simp) (by simp)
  obtain rfl : { Sample.method with
    isVerified := false, verifiedAt := none, verifiedBy := none } = m₀ := Option.some.inj hm₀
  exact absurd (congrArg BankDetails.accountType hd) (by decide)

end GearshPayments

import GearshPayments.Resumption.History
import GearshPayments.Resumption.Relabel

/-!
# Running amid others

A thread of a pool is run in a store that the others change between its actions.  Seen from the
thread alone this is a big step (`Amid`): before each of its actions, and after the last, the store
has changed along a relation that bounds what the others do, and its actions may be refused.  A
thread that has ended has made such a step (`Pool.amid_run`), and the rules here take the step apart
along the program.
-/

namespace Resumption

variable {σ Q Q' A A' ε ε' α β : Type} {R : σ → σ → Prop} {F : ε → Prop}

/-- The program ends with the result, after the exchanges given, while others change the store
along `R`, and its actions are refused only with errors in `F`. -/
inductive Amid (R : σ → σ → Prop) (F : ε → Prop) :
    Resumption σ Q A ε α → σ → Except ε α → List (Q × A) → σ → Prop
  | ret {a : α} {s s' : σ} (others : R s s') : Amid R F (.ret a) s (.ok a) [] s'
  | throw {e : ε} {s s' : σ} (others : R s s') : Amid R F (.throw e) s (.error e) [] s'
  | atomic {act : σ → σ} {k : Except ε σ → Resumption σ Q A ε α} {s s₁ s' : σ} {r : Except ε α}
    {l : List (Q × A)} (others : R s s₁) (rest : Amid R F (k (.ok s₁)) (act s₁) r l s') :
    Amid R F (.atomic act k) s r l s'
  | refused {act : σ → σ} {k : Except ε σ → Resumption σ Q A ε α} {e : ε} {s s' : σ}
    {r : Except ε α} {l : List (Q × A)} (refusal : F e) (rest : Amid R F (k (.error e)) s r l s') :
    Amid R F (.atomic act k) s r l s'
  | ask {q : Q} {k : A → Resumption σ Q A ε α} {a : A} {s s' : σ} {r : Except ε α}
    {l : List (Q × A)} (rest : Amid R F (k a) s r l s') : Amid R F (.ask q k) s r ((q, a) :: l) s'

namespace Amid

variable {p : Resumption σ Q A ε α} {s s' : σ} {r : Except ε α} {l : List (Q × A)}

/-- What others have done before the program is part of what they do. -/
theorem of_others (htrans : ∀ {s s' s''}, R s s' → R s' s'' → R s s'') {s₀ : σ} (hs : R s₀ s)
    (h : Amid R F p s r l s') : Amid R F p s₀ r l s' := by
  induction h with
  | ret others => exact .ret (htrans hs others)
  | throw others => exact .throw (htrans hs others)
  | atomic others rest => exact .atomic (htrans hs others) rest
  | refused refusal rest ih => exact .refused refusal (ih hs)
  | ask rest ih => exact .ask (ih hs)

/-- A sequence ends where its first part throws, or where its second part ends. -/
theorem of_bind (hrefl : ∀ s, R s s) {f : α → Resumption σ Q A ε β} {r : Except ε β}
    (h : Amid R F (p >>= f) s r l s') :
    (∃ e, r = .error e ∧ Amid R F p s (.error e) l s') ∨
      ∃ a l₁ l₂ s₁, Amid R F p s (.ok a) l₁ s₁ ∧ Amid R F (f a) s₁ r l₂ s' ∧ l = l₁ ++ l₂ := by
  induction p generalizing s l with
  | ret a => exact .inr ⟨a, [], l, s, .ret (hrefl s), h, rfl⟩
  | throw e =>
      cases h with
      | throw others => exact .inl ⟨e, rfl, .throw others⟩
  | atomic act k ih =>
      cases h with
      | atomic others rest =>
          rcases ih _ rest with ⟨e, hr, hp⟩ | ⟨a, l₁, l₂, s₁, hp, hf, hl⟩
          · exact .inl ⟨e, hr, .atomic others hp⟩
          · exact .inr ⟨a, l₁, l₂, s₁, .atomic others hp, hf, hl⟩
      | refused refusal rest =>
          rcases ih _ rest with ⟨e, hr, hp⟩ | ⟨a, l₁, l₂, s₁, hp, hf, hl⟩
          · exact .inl ⟨e, hr, .refused refusal hp⟩
          · exact .inr ⟨a, l₁, l₂, s₁, .refused refusal hp, hf, hl⟩
  | ask q k ih =>
      cases h with
      | ask rest =>
          rcases ih _ rest with ⟨e, hr, hp⟩ | ⟨a, l₁, l₂, s₁, hp, hf, rfl⟩
          · exact .inl ⟨e, hr, .ask hp⟩
          · exact .inr ⟨a, _, l₂, s₁, .ask hp, hf, rfl⟩

/-- A handled program returns, or its handler goes on from where it threw. -/
theorem of_tryCatch (hrefl : ∀ s, R s s) {f : ε → Resumption σ Q A ε α}
    (h : Amid R F (tryCatchThe ε p f) s r l s') :
    (∃ a, r = .ok a ∧ Amid R F p s (.ok a) l s') ∨
      ∃ e l₁ l₂ s₁, Amid R F p s (.error e) l₁ s₁ ∧ Amid R F (f e) s₁ r l₂ s' ∧ l = l₁ ++ l₂ := by
  induction p generalizing s l with
  | ret a =>
      cases h with
      | ret others => exact .inl ⟨a, rfl, .ret others⟩
  | throw e => exact .inr ⟨e, [], l, s, .throw (hrefl s), h, rfl⟩
  | atomic act k ih =>
      cases h with
      | atomic others rest =>
          rcases ih _ rest with ⟨a, hr, hp⟩ | ⟨e, l₁, l₂, s₁, hp, hf, hl⟩
          · exact .inl ⟨a, hr, .atomic others hp⟩
          · exact .inr ⟨e, l₁, l₂, s₁, .atomic others hp, hf, hl⟩
      | refused refusal rest =>
          rcases ih _ rest with ⟨a, hr, hp⟩ | ⟨e, l₁, l₂, s₁, hp, hf, hl⟩
          · exact .inl ⟨a, hr, .refused refusal hp⟩
          · exact .inr ⟨e, l₁, l₂, s₁, .refused refusal hp, hf, hl⟩
  | ask q k ih =>
      cases h with
      | ask rest =>
          rcases ih _ rest with ⟨a, hr, hp⟩ | ⟨e, l₁, l₂, s₁, hp, hf, rfl⟩
          · exact .inl ⟨a, hr, .ask hp⟩
          · exact .inr ⟨e, _, l₂, s₁, .ask hp, hf, rfl⟩

/-- A program whose value is changed. -/
theorem of_map {f : α → β} {r : Except ε β} (h : Amid R F (f <$> p) s r l s') :
    ∃ r', Amid R F p s r' l s' ∧ r = r'.map f := by
  induction p generalizing s l with
  | ret a =>
      cases h with
      | ret others => exact ⟨.ok a, .ret others, rfl⟩
  | throw e =>
      cases h with
      | throw others => exact ⟨.error e, .throw others, rfl⟩
  | atomic act k ih =>
      cases h with
      | atomic others rest =>
          obtain ⟨r', hp, hr⟩ := ih _ rest
          exact ⟨r', .atomic others hp, hr⟩
      | refused refusal rest =>
          obtain ⟨r', hp, hr⟩ := ih _ rest
          exact ⟨r', .refused refusal hp, hr⟩
  | ask q k ih =>
      cases h with
      | ask rest =>
          obtain ⟨r', hp, hr⟩ := ih _ rest
          exact ⟨r', .ask hp, hr⟩

/-- A program whose value is dropped. -/
theorem of_discard {r : Except ε PUnit} (h : Amid R F (discard p) s r l s') :
    ∃ r', Amid R F p s r' l s' ∧ r = r'.map fun _ ↦ ⟨⟩ := of_map h

/-- A computation that needs neither store nor outside party. -/
theorem of_ofExcept {x : Except ε α} (h : Amid R F (ofExcept x : Resumption σ Q A ε α) s r l s') :
    r = x ∧ l = [] ∧ R s s' := by
  cases x with
  | ok a =>
      cases h with
      | ret others => exact ⟨rfl, rfl, others⟩
  | error e =>
      cases h with
      | throw others => exact ⟨rfl, rfl, others⟩

/-- A read returns what it sees or is refused, and nothing else happens but what others do. -/
theorem of_read {f : σ → α} (h : Amid R F (read f) s r l s') :
    l = [] ∧ ((∃ s₁, R s s₁ ∧ R s₁ s' ∧ r = .ok (f s₁)) ∨ ∃ e, F e ∧ R s s' ∧ r = .error e) := by
  cases h with
  | atomic others rest =>
      cases rest with
      | ret others' => exact ⟨rfl, .inl ⟨_, others, others', rfl⟩⟩
  | refused refusal rest =>
      cases rest with
      | throw others => exact ⟨rfl, .inr ⟨_, refusal, others, rfl⟩⟩

/-- A transaction is committed or throws in the store that it finds, or is refused. -/
theorem of_transaction {t : StateT σ (Except ε) α} (h : Amid R F (transaction t) s r l s') :
    l = [] ∧ ((∃ s₁ s₂, R s s₁ ∧ R s₂ s' ∧ ((∃ a, r = .ok a ∧ t s₁ = .ok (a, s₂)) ∨
      ∃ e, r = .error e ∧ t s₁ = .error e ∧ s₂ = s₁)) ∨ ∃ e, F e ∧ R s s' ∧ r = .error e) := by
  cases h with
  | @atomic _ _ _ s₁ _ _ _ others rest =>
      cases ht : t s₁ with
      | ok x =>
          simp only [ht] at rest
          cases rest with
          | ret others' => exact ⟨rfl, .inl ⟨s₁, x.2, others, others', .inl ⟨x.1, rfl, ht⟩⟩⟩
      | error e =>
          simp only [ht] at rest
          cases rest with
          | throw others' => exact ⟨rfl, .inl ⟨s₁, s₁, others, others', .inr ⟨e, rfl, ht, rfl⟩⟩⟩
  | refused refusal rest =>
      cases rest with
      | throw others => exact ⟨rfl, .inr ⟨_, refusal, others, rfl⟩⟩

end Amid

/-- The program has returned. -/
def hasReturned : Resumption σ Q A ε Unit → Bool
  | .ret _ => true
  | _ => false

theorem eq_some_ret {p : Option (Resumption σ Q A ε Unit)} (h : p.any hasReturned = true) :
    p = some (.ret ()) := by
  cases p with
  | none => cases h
  | some p =>
      cases p with
      | ret a => rfl
      | throw e => cases h
      | atomic act k => cases h
      | ask q k => cases h

/-! ## Repeating -/

/-- The program, a number of times over. -/
def times (p : Resumption σ Q A ε Unit) : ℕ → Resumption σ Q A ε Unit
  | 0 => .ret ()
  | n + 1 => p >>= fun _ ↦ times p n

namespace Amid

variable {p : Resumption σ Q A ε Unit} {n : ℕ} {s s' : σ} {l : List (Q × A)}

/-- The stores between the rounds of a program that is repeated. -/
theorem of_times (hrefl : ∀ s, R s s) (h : Amid R F (times p n) s (.ok ()) l s') :
    ∃ st : ℕ → σ, st 0 = s ∧ R (st n) s' ∧
      ∀ k < n, ∃ l', Amid R F p (st k) (.ok ()) l' (st (k + 1)) := by
  induction n generalizing s l with
  | zero =>
      cases h with
      | ret others => exact ⟨fun _ ↦ s, rfl, others, fun k hk ↦ absurd hk (Nat.not_lt_zero k)⟩
  | succ n ih =>
      rcases of_bind hrefl h with ⟨e, hr, -⟩ | ⟨_, l₁, l₂, s₁, hp, hrest, rfl⟩
      · cases hr
      · obtain ⟨st, rfl, hlast, hrounds⟩ := ih hrest
        refine ⟨fun k ↦ k.casesOn s st, rfl, hlast, fun k hk ↦ ?_⟩
        cases k with
        | zero => exact ⟨l₁, hp⟩
        | succ k => exact hrounds k (Nat.lt_of_succ_lt_succ hk)

/-- What holds of each round holds of all of them, if it holds of one after the other. -/
theorem times_induct (hrefl : ∀ s, R s s) {T : σ → List (Q × A) → σ → Prop}
    (hothers : ∀ {s s'}, R s s' → T s [] s')
    (happend : ∀ {s s₁ s' l l'}, T s l s₁ → T s₁ l' s' → T s (l ++ l') s')
    (hround : ∀ {s l s'}, Amid R F p s (.ok ()) l s' → T s l s')
    (h : Amid R F (times p n) s (.ok ()) l s') : T s l s' := by
  induction n generalizing s l with
  | zero =>
      cases h with
      | ret others => exact hothers others
  | succ n ih =>
      rcases of_bind hrefl h with ⟨e, hr, -⟩ | ⟨_, l₁, l₂, s₁, hp, hrest, rfl⟩
      · cases hr
      · exact happend (hround hp) (ih hrest)

end Amid

/-! ## In another language -/

/-- The program with its errors put in another language, and the errors with which its actions are
refused read in its own. -/
def relabelErrors (f : ε → ε') (g : ε' → ε) : Resumption σ Q A ε α → Resumption σ Q A ε' α
  | .ret a => .ret a
  | .throw e => .throw (f e)
  | .atomic act k => .atomic act fun r ↦ (k (r.mapError g)).relabelErrors f g
  | .ask q k => .ask q fun a ↦ (k a).relabelErrors f g

theorem Guarantees.relabelErrors {I : σ → Prop} {G : σ → σ → Prop} {f : ε → ε'} {g : ε' → ε}
    {p : Resumption σ Q A ε α} (hp : Guarantees I G p) : Guarantees I G (p.relabelErrors f g) := by
  induction p with
  | ret a => trivial
  | throw e => trivial
  | atomic act k ih =>
      refine ⟨fun s hs ↦ ?_, fun e ↦ ih _ (hp.2 (g e))⟩
      obtain ⟨hact, hk⟩ := hp.1 s hs
      exact ⟨hact, ih _ hk⟩
  | ask q k ih => exact fun a ↦ ih _ (hp a)

namespace Amid

variable {p : Resumption σ Q A ε α} {s s' : σ}

theorem of_relabelErrors {f : ε → ε'} {g : ε' → ε} {F' : ε' → Prop} (hF : ∀ e, F' e → F (g e))
    {r : Except ε' α} {l : List (Q × A)} (h : Amid R F' (p.relabelErrors f g) s r l s') :
    ∃ r', Amid R F p s r' l s' ∧ r = r'.mapError f := by
  induction p generalizing s l with
  | ret a =>
      cases h with
      | ret others => exact ⟨.ok a, .ret others, rfl⟩
  | throw e =>
      cases h with
      | throw others => exact ⟨.error e, .throw others, rfl⟩
  | atomic act k ih =>
      cases h with
      | atomic others rest =>
          obtain ⟨r', hp, hr⟩ := ih _ rest
          exact ⟨r', .atomic others hp, hr⟩
      | refused refusal rest =>
          obtain ⟨r', hp, hr⟩ := ih _ rest
          exact ⟨r', .refused (hF _ refusal) hp, hr⟩
  | ask q k ih =>
      cases h with
      | ask rest =>
          obtain ⟨r', hp, hr⟩ := ih _ rest
          exact ⟨r', .ask hp, hr⟩

/-- A program behaves in another language as in its own. -/
theorem of_relabel {f : Q → Q'} {g : A' → A} {r : Except ε α} {l : List (Q' × A')}
    (h : Amid R F (p.relabel f g) s r l s') :
    ∃ l', Amid R F p s r l' s' ∧ List.Forall₂ (fun x y ↦ x.1 = f y.1 ∧ g x.2 = y.2) l l' := by
  induction p generalizing s l with
  | ret a =>
      cases h with
      | ret others => exact ⟨[], .ret others, .nil⟩
  | throw e =>
      cases h with
      | throw others => exact ⟨[], .throw others, .nil⟩
  | atomic act k ih =>
      cases h with
      | atomic others rest =>
          obtain ⟨l', hp, hl⟩ := ih _ rest
          exact ⟨l', .atomic others hp, hl⟩
      | refused refusal rest =>
          obtain ⟨l', hp, hl⟩ := ih _ rest
          exact ⟨l', .refused refusal hp, hl⟩
  | ask q k ih =>
      cases h with
      | @ask _ _ a _ _ _ l rest =>
          obtain ⟨l', hp, hl⟩ := ih _ rest
          exact ⟨(q, g a) :: l', .ask hp, .cons ⟨rfl, rfl⟩ hl⟩

end Amid

/-! ## Pools -/

namespace Pool

/-- A turn of the thread is no refusal but one in `F`, and one of another thread changes the store
along `R`. -/
def Beside (R : σ → σ → Prop) (F : ε → Prop) (i : ℕ) (P : Pool σ Q A (Resumption σ Q A ε α))
    (t : Turn A ε) : Prop :=
  if t.thread = i then ∀ e, t.move = .refuse e → F e else R P.store (step next P t).store

/-- Each thread has a guarantee of its own, which its turns keep to. -/
theorem guarantees_each_step {G : ℕ → σ → σ → Prop} (hG : ∀ i s, G i s s)
    {P : Pool σ Q A (Resumption σ Q A ε α)}
    (hg : ∀ (i : ℕ) p, P.threads[i]? = some p → Guarantees (fun _ ↦ True) (G i) p)
    (t : Turn A ε) :
    (∀ (i : ℕ) p, (step next P t).threads[i]? = some p → Guarantees (fun _ ↦ True) (G i) p) ∧
      G t.thread P.store (step next P t).store := by
  rcases step_cases next P t with h | ⟨p, s, p', x, hget, hnext, h⟩
  · rw [h]
    exact ⟨hg, hG _ _⟩
  · obtain ⟨hchange, hp'⟩ := (hg _ p hget).next (fun s _ ↦ hG _ s) trivial hnext
    rw [h]
    exact ⟨forall_set_of_ne (fun j q _ ↦ hg j q) hp', hchange⟩

/-- A thread that has ended has run amid the others. -/
theorem amid_run (hrefl : ∀ s, R s s) (htrans : ∀ {s s' s''}, R s s' → R s' s'' → R s s'')
    {P : Pool σ Q A (Resumption σ Q A ε α)} {i : ℕ} {p : Resumption σ Q A ε α}
    (hi : P.threads[i]? = some p) {ts : List (Turn A ε)}
    (hbeside : Transition.Along (step next) (Beside R F i) P ts) {r : Except ε α}
    (hend : (run next P ts).threads[i]? = some (ofExcept r)) :
    ∃ l, Amid R F p P.store r l (run next P ts).store ∧
      exchanges (run next P ts).log i = exchanges P.log i ++ l := by
  induction ts generalizing P p with
  | nil =>
      cases hi.symm.trans hend
      refine ⟨[], ?_, (List.append_nil _).symm⟩
      cases r with
      | ok a => exact .ret (hrefl _)
      | error e => exact .throw (hrefl _)
  | cons t ts ih =>
      obtain ⟨hturn, hrest⟩ := hbeside
      rw [run, Transition.run_cons] at hend ⊢
      rcases step_cases next P t with h | ⟨q, s, p', x, hget, hnext, h⟩
      · rw [h] at hrest hend ⊢
        exact ih hi hrest hend
      · by_cases ht : t.thread = i
        · have hmove : ∀ e, t.move = .refuse e → F e := by
            unfold Beside at hturn
            rwa [if_pos ht] at hturn
          rw [ht] at hget h
          cases hi.symm.trans hget
          have hset := List.getElem?_set_self (a := p') (List.getElem?_eq_some_iff.mp hi).1
          rw [h] at hrest hend ⊢
          cases p with
          | ret a => cases hm : t.move <;> rw [hm] at hnext <;> cases hnext
          | throw e => cases hm : t.move <;> rw [hm] at hnext <;> cases hnext
          | atomic act k =>
              cases hm : t.move with
              | answer a => rw [hm] at hnext; cases hnext
              | refuse e =>
                  rw [hm] at hnext
                  cases hnext
                  obtain ⟨l, hl, hlog⟩ := ih hset hrest hend
                  refine ⟨l, .refused (hmove e hm) hl, hlog.trans ?_⟩
                  rw [Option.toList_none, List.map_nil, List.append_nil]
              | act =>
                  rw [hm] at hnext
                  cases hnext
                  obtain ⟨l, hl, hlog⟩ := ih hset hrest hend
                  refine ⟨l, .atomic (hrefl _) hl, hlog.trans ?_⟩
                  rw [Option.toList_none, List.map_nil, List.append_nil]
          | ask q k =>
              cases hm : t.move with
              | act => rw [hm] at hnext; cases hnext
              | refuse e => rw [hm] at hnext; cases hnext
              | answer a =>
                  rw [hm] at hnext
                  cases hnext
                  obtain ⟨l, hl, hlog⟩ := ih hset hrest hend
                  refine ⟨(q, a) :: l, .ask hl, hlog.trans ?_⟩
                  rw [Option.toList_some, List.map_singleton, exchanges_append_self,
                    List.append_assoc, List.singleton_append]
        · have hchange : R P.store (step next P t).store := by
            unfold Beside at hturn
            rwa [if_neg ht] at hturn
          have hsame : (step next P t).threads[i]? = some p := by
            rw [h, List.getElem?_set_ne ht]
            exact hi
          obtain ⟨l, hl, hlog⟩ := ih hsame hrest hend
          refine ⟨l, Amid.of_others (R := R) htrans hchange hl, hlog.trans ?_⟩
          rw [h]
          cases x with
          | none => rw [Option.toList_none, List.map_nil, List.append_nil]
          | some x =>
              rw [Option.toList_some, List.map_singleton, exchanges_append_of_ne _ ht]

end Pool

end Resumption

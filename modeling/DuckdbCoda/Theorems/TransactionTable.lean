import DuckdbCoda.Model.TransactionManager

/-!
# The transaction table holds the live transactions

The invariant of the clients and the manager (`Tracks`) relates the map to the
history of what the methods have returned: an address without an entry has no
live transaction, one with an entry has exactly one, and the write flag of the
entry tells whether that one was marked. `step_tracks` says that every step
keeps it, in whatever order the clients take them.
-/

namespace DuckdbCoda

open History

/-! ## The map at an address -/

namespace RustBridgeTransactionManager

@[simp] theorem find?_insert (manager : RustBridgeTransactionManager) (address other : Nat)
    (transaction : RustBridgeTransaction) :
    (manager.insert address transaction).find? other =
      if other = address then some transaction else manager.find? other :=
  KeyedMap.find?_insert manager.transactions address other transaction

@[simp] theorem find?_erase (manager : RustBridgeTransactionManager) (address other : Nat) :
    (manager.erase address).find? other =
      if other = address then none else manager.find? other :=
  KeyedMap.find?_erase manager.transactions address other

end RustBridgeTransactionManager

/-- What the map has at an address is what the history says of it. -/
def Agrees (history : List Observation) (address : Nat) : Option RustBridgeTransaction → Prop
  | none => ∀ birth, ¬ LiveTransaction history birth address
  | some transaction => ∃ birth, LiveTransaction history birth address ∧
      (∀ other, LiveTransaction history other address → other = birth) ∧
      (transaction.hasWrites = true ↔ MarkedSince history birth address)

/-- An address has an entry exactly if something lives there. -/
theorem Agrees.isSome_iff {history : List Observation} {address : Nat}
    {entry : Option RustBridgeTransaction} (h : Agrees history address entry) :
    entry.isSome = true ↔ ∃ birth, LiveTransaction history birth address := by
  cases entry with
  | none =>
      constructor
      · intro hsome
        cases hsome
      · rintro ⟨birth, hlives⟩
        exact absurd hlives (h birth)
  | some transaction =>
      obtain ⟨birth, hlives, _⟩ := h
      exact ⟨fun _ => ⟨birth, hlives⟩, fun _ => rfl⟩

/-- No two transactions live at one address. -/
theorem Agrees.unique {history : List Observation} {address birth other : Nat}
    {entry : Option RustBridgeTransaction} (h : Agrees history address entry)
    (hlives : LiveTransaction history birth address)
    (hother : LiveTransaction history other address) : birth = other := by
  cases entry with
  | none => exact absurd hlives (h birth)
  | some transaction =>
      obtain ⟨first, _, honly, _⟩ := h
      rw [honly birth hlives, honly other hother]

/-- The object an observation is about. -/
def Observation.address? : Observation → Option Nat
  | .waits => none
  | .startThrew _ => none
  | .started address => some address
  | .marked address => some address
  | .committed address => some address
  | .rolledBack address _ => some address

/-! ## One more observation -/

section

variable {history : List Observation} {address : Nat} {observation : Observation}

theorem begins_ne_of_ne (hne : observation.address? ≠ some address) :
    transactionLifetimes.begins observation ≠ some address := by
  intro h
  cases observation with
  | started other => exact hne h
  | _ => cases h

theorem ends_ne_of_ne (hne : observation.address? ≠ some address) :
    transactionLifetimes.ends observation ≠ some address := by
  intro h
  cases observation with
  | committed other => exact hne h
  | rolledBack other outcome => exact hne h
  | _ => cases h

/-- An observation about something else does not change what lives here. -/
theorem live_snoc_of_ne (hne : observation.address? ≠ some address) (birth : Nat) :
    LiveTransaction (history ++ [observation]) birth address ↔
      LiveTransaction history birth address := by
  constructor
  · intro h
    rcases (lives_snoc_iff _).mp h with ⟨_, hbegins⟩ | ⟨hold, _⟩
    · exact absurd hbegins (begins_ne_of_ne hne)
    · exact hold
  · intro h
    exact (lives_snoc_iff _).mpr (.inr ⟨h, ends_ne_of_ne hne⟩)

theorem agrees_snoc_of_ne (hne : observation.address? ≠ some address)
    {entry : Option RustBridgeTransaction} (h : Agrees history address entry) :
    Agrees (history ++ [observation]) address entry := by
  cases entry with
  | none =>
      intro birth hlives
      exact h birth ((live_snoc_of_ne hne birth).mp hlives)
  | some transaction =>
      obtain ⟨birth, hlives, honly, hflag⟩ := h
      have hmarked : observation ≠ .marked address := by
        rintro rfl
        exact hne rfl
      refine ⟨birth, (live_snoc_of_ne hne birth).mpr hlives, ?_, ?_⟩
      · intro other hother
        exact honly other ((live_snoc_of_ne hne other).mp hother)
      · rw [hflag, MarkedSince, MarkedSince, since_snoc_iff]
        simp [hmarked]

/-- A new object at a free address. -/
theorem agrees_started (h : Agrees history address none) {transaction : RustBridgeTransaction}
    (hnew : transaction.hasWrites = false) :
    Agrees (history ++ [.started address]) address (some transaction) := by
  refine ⟨history.length, (lives_snoc_iff _).mpr (.inl ⟨rfl, rfl⟩), ?_, ?_⟩
  · intro other hother
    rcases (lives_snoc_iff _).mp hother with ⟨hbirth, _⟩ | ⟨hold, _⟩
    · exact hbirth
    · exact absurd hold (h other)
  · rw [hnew, MarkedSince, since_snoc_iff]
    simp [not_since_length]

theorem agrees_marked {transaction : RustBridgeTransaction}
    (h : Agrees history address (some transaction)) :
    Agrees (history ++ [.marked address]) address (some transaction.markWrite) := by
  obtain ⟨birth, hlives, honly, _⟩ := h
  refine ⟨birth, (lives_snoc_iff _).mpr (.inr ⟨hlives, nofun⟩), ?_, ?_⟩
  · intro other hother
    rcases (lives_snoc_iff _).mp hother with ⟨_, hbegins⟩ | ⟨hold, _⟩
    · cases hbegins
    · exact honly other hold
  · rw [MarkedSince, since_snoc_iff]
    simp [RustBridgeTransaction.markWrite, hlives.lt_length]

/-- The call that finishes a transaction leaves none at its address. -/
theorem agrees_ended (hends : transactionLifetimes.ends observation = some address) :
    Agrees (history ++ [observation]) address none := by
  intro birth hlives
  rcases (lives_snoc_iff _).mp hlives with ⟨_, hbegins⟩ | ⟨_, hnot⟩
  · cases observation with
    | started other => cases hends
    | _ => cases hbegins
  · exact hnot hends

end

/-! ## What one step can do -/

/-- What a waiting call relies on in the map. -/
def WaitingCall.Fits (manager : RustBridgeTransactionManager) : WaitingCall → Prop
  | .start address transaction =>
      manager.find? address = none ∧ transaction.hasWrites = false
  | .commit address => ∃ transaction, manager.find? address = some transaction
  | .rollback address outcome => ∃ transaction, manager.find? address = some transaction ∧
      outcome = transaction.rollback

/-- A call looks at the map at its own address only. -/
theorem WaitingCall.Fits.congr {manager manager' : RustBridgeTransactionManager}
    {call : WaitingCall} (h : call.Fits manager)
    (hsame : manager'.find? call.address = manager.find? call.address) : call.Fits manager' := by
  cases call with
  | start address transaction => exact ⟨hsame.trans h.1, h.2⟩
  | commit address =>
      obtain ⟨transaction, hfind⟩ := h
      exact ⟨transaction, hsame.trans hfind⟩
  | rollback address outcome =>
      obtain ⟨transaction, hfind, houtcome⟩ := h
      exact ⟨transaction, hsame.trans hfind, houtcome⟩

section

variable {κ : Type} [DecidableEq κ] {server server' : TransactionServer κ}
  {observation : Observation}

/-- The kinds of steps: a start is refused, a call arrives at the lock, a
transaction is marked, a call has the lock. -/
inductive Does (server : TransactionServer κ) : TransactionServer κ → Observation → Prop where
  | refused (exception : Exception) : Does server server (.startThrew exception)
  | arrives (client : κ) (call : WaitingCall) : server.waiting.find? client = none →
      server.untouched call.address = true → call.Fits server.manager →
      Does server (server.wait client call).1 .waits
  | marks (address : Nat) (transaction : RustBridgeTransaction) :
      server.untouched address = true → server.manager.find? address = some transaction →
      Does server { server with manager := server.manager.insert address transaction.markWrite }
        (.marked address)
  | takesLock (client : κ) (call : WaitingCall) : server.waiting.find? client = some call →
      Does server ⟨(TransactionServer.underLock server.manager call).1, server.waiting.erase client⟩
        (TransactionServer.underLock server.manager call).2

/-- A call about a live transaction: its client is idle, and no call that waits
is about the same one. -/
theorem TransactionServer.onLive_eq_some {β : Type} {client : κ} {address : Nat}
    {f : RustBridgeTransaction → β} {result : β}
    (h : (if server.idle client then (server.live? address).map f else none) = some result) :
    server.waiting.find? client = none ∧ server.untouched address = true ∧
      ∃ transaction, server.manager.find? address = some transaction ∧ f transaction = result := by
  split at h
  case isFalse => cases h
  case isTrue hidle =>
    obtain ⟨transaction, hlive, heq⟩ := Option.map_eq_some_iff.mp h
    unfold live? at hlive
    split at hlive
    case isFalse => cases hlive
    case isTrue huntouched =>
      exact ⟨Option.isNone_iff_eq_none.mp hidle, huntouched, transaction, hlive, heq⟩

theorem startTransaction_ok {context : ClientContext} {transaction : RustBridgeTransaction}
    (h : startTransaction context = .ok transaction) : transaction.hasWrites = false := by
  unfold startTransaction at h
  split at h
  · cases h
  · cases h
    rfl

/-- **Inversion of a step.** -/
theorem step_does {event : ManagerEvent κ}
    (h : server.step event = some (server', observation)) : Does server server' observation := by
  cases event with
  | startTransaction client context address =>
      simp only [TransactionServer.step] at h
      split at h
      case isFalse => cases h
      case isTrue hidle =>
        cases hstart : startTransaction context with
        | error exception =>
            simp only [hstart, Option.some.injEq, Prod.mk.injEq] at h
            obtain ⟨rfl, rfl⟩ := h
            exact .refused exception
        | ok transaction =>
            -- `make_uniq` returns an address that no live object and no waiting call has
            simp only [hstart] at h
            split at h
            case isFalse => cases h
            case isTrue hfree =>
              simp only [TransactionServer.free, Bool.and_eq_true, Option.isNone_iff_eq_none]
                at hfree
              cases h
              exact .arrives client (.start address transaction) (Option.isNone_iff_eq_none.mp hidle)
                hfree.2 ⟨hfree.1, startTransaction_ok hstart⟩
  | markWrite client address =>
      obtain ⟨_, huntouched, transaction, hfind, heq⟩ := TransactionServer.onLive_eq_some h
      cases heq
      exact .marks address transaction huntouched hfind
  | commitTransaction client address =>
      obtain ⟨hidle, huntouched, transaction, hfind, heq⟩ := TransactionServer.onLive_eq_some h
      cases heq
      exact .arrives client (.commit address) hidle huntouched ⟨transaction, hfind⟩
  | rollbackTransaction client address =>
      obtain ⟨hidle, huntouched, transaction, hfind, heq⟩ := TransactionServer.onLive_eq_some h
      cases heq
      exact .arrives client (.rollback address transaction.rollback) hidle huntouched
        ⟨transaction, hfind, rfl⟩
  | locked client =>
      obtain ⟨call, hcall, heq⟩ := Option.map_eq_some_iff.mp h
      cases heq
      exact .takesLock client call hcall

/-! ## A call that nobody interrupts -/

/-- A call that arrives and has the lock at once, with the clients as they
were. -/
theorem run_wait_locked {event : ManagerEvent κ} {client : κ} {call : WaitingCall}
    (hidle : server.waiting.find? client = none)
    (hstep : server.step event = some (server.wait client call)) :
    ∃ after, server.run [event, .locked client] =
        some (after, [.waits, (TransactionServer.underLock server.manager call).2]) ∧
      after.manager = (TransactionServer.underLock server.manager call).1 ∧
      ∀ other, after.waiting.find? other = server.waiting.find? other := by
  have hcall : (server.waiting.insert client call).find? client = some call := by
    rw [KeyedMap.find?_insert, if_pos rfl]
  refine ⟨⟨(TransactionServer.underLock server.manager call).1,
    (server.waiting.insert client call).erase client⟩, ?_, rfl, ?_⟩
  · simp only [TransactionServer.run, runSteps, hstep]
    simp only [TransactionServer.wait, TransactionServer.step, hcall, Option.map_some]
  · intro other
    rw [KeyedMap.find?_erase]
    split
    case isTrue hsame => rw [show other = client from hsame, hidle]
    case isFalse hne => rw [KeyedMap.find?_insert, if_neg hne]

theorem startTransaction_uninterrupted {client : κ} {context : ClientContext} {address : Nat}
    {transaction : RustBridgeTransaction} (hidle : server.waiting.find? client = none)
    (hfree : server.free address = true) (hstart : startTransaction context = .ok transaction) :
    ∃ after, server.run [.startTransaction client context address, .locked client] =
        some (after, [.waits, .started address]) ∧
      server.manager.startTransaction context address = (.ok (), after.manager) ∧
      ∀ other, after.waiting.find? other = server.waiting.find? other := by
  have hstep : server.step (.startTransaction client context address) =
      some (server.wait client (.start address transaction)) := by
    simp [TransactionServer.step, TransactionServer.idle, hidle, hstart, hfree]
  obtain ⟨after, hrun, hmanager, hothers⟩ := run_wait_locked hidle hstep
  refine ⟨after, hrun, ?_, hothers⟩
  rw [RustBridgeTransactionManager.startTransaction, hstart, hmanager]
  rfl

theorem commitTransaction_uninterrupted {client : κ} {address : Nat}
    {transaction : RustBridgeTransaction} (hidle : server.waiting.find? client = none)
    (hlive : server.live? address = some transaction) :
    ∃ after, server.run [.commitTransaction client address, .locked client] =
        some (after, [.waits, .committed address]) ∧
      server.manager.commitTransaction address = after.manager ∧
      ∀ other, after.waiting.find? other = server.waiting.find? other := by
  have hstep : server.step (.commitTransaction client address) =
      some (server.wait client (.commit address)) := by
    simp [TransactionServer.step, TransactionServer.idle, hidle, hlive]
  obtain ⟨after, hrun, hmanager, hothers⟩ := run_wait_locked hidle hstep
  exact ⟨after, hrun, hmanager.symm, hothers⟩

theorem rollbackTransaction_uninterrupted {client : κ} {address : Nat}
    {transaction : RustBridgeTransaction} (hidle : server.waiting.find? client = none)
    (hlive : server.live? address = some transaction) :
    ∃ after outcome, server.run [.rollbackTransaction client address, .locked client] =
        some (after, [.waits, .rolledBack address outcome]) ∧
      server.manager.rollbackTransaction address transaction = (outcome, after.manager) ∧
      ∀ other, after.waiting.find? other = server.waiting.find? other := by
  have hstep : server.step (.rollbackTransaction client address) =
      some (server.wait client (.rollback address transaction.rollback)) := by
    simp [TransactionServer.step, TransactionServer.idle, hidle, hlive]
  obtain ⟨after, hrun, hmanager, hothers⟩ := run_wait_locked hidle hstep
  refine ⟨after, transaction.rollback, ?_, ?_, hothers⟩
  · rw [hrun]
    rcases transaction.rollback with exception | _ <;> rfl
  · rw [RustBridgeTransactionManager.rollbackTransaction, hmanager]
    rcases transaction.rollback with exception | _ <;> rfl

/-! ## The invariant -/

/-- The clients and the manager after a history: the map agrees with it at every
address, every waiting call has what it relies on, and no two calls that wait
are about one object. -/
structure Tracks (server : TransactionServer κ) (history : List Observation) : Prop where
  table : ∀ address, Agrees history address (server.manager.find? address)
  waiting : ∀ client call, server.waiting.find? client = some call → call.Fits server.manager
  apart : ∀ client other call call', server.waiting.find? client = some call →
    server.waiting.find? other = some call' → call.address = call'.address → client = other

theorem tracks_fresh : Tracks (TransactionServer.fresh : TransactionServer κ) [] where
  table _ _ := not_lives_nil
  waiting _ _ h := by cases h
  apart _ _ _ _ h := by cases h

/-- A waiting call is about another object than an untouched one. -/
theorem address_ne_of_untouched {address : Nat} (h : server.untouched address = true)
    {client : κ} {call : WaitingCall} (hcall : server.waiting.find? client = some call) :
    call.address ≠ address := by
  have hall := List.all_eq_true.mp h call (KeyedMap.mem_values_of_find? _ hcall)
  exact bne_iff_ne.mp hall

theorem table_unchanged {manager : RustBridgeTransactionManager} {history : List Observation}
    (h : ∀ address, Agrees history address (manager.find? address))
    (habout : observation.address? = none) :
    ∀ address, Agrees (history ++ [observation]) address (manager.find? address) := by
  intro address
  refine agrees_snoc_of_ne ?_ (h address)
  rw [habout]
  exact (Option.some_ne_none address).symm

/-- A change of the map at one address, with the observation that tells of it. -/
theorem table_changed {manager manager' : RustBridgeTransactionManager}
    {history : List Observation} {address : Nat}
    (h : ∀ other, Agrees history other (manager.find? other))
    (hframe : ∀ other, other ≠ address → manager'.find? other = manager.find? other)
    (habout : observation.address? = some address)
    (hhere : Agrees (history ++ [observation]) address (manager'.find? address)) :
    ∀ other, Agrees (history ++ [observation]) other (manager'.find? other) := by
  intro other
  by_cases heq : other = address
  · rw [heq]
    exact hhere
  · rw [hframe other heq]
    refine agrees_snoc_of_ne ?_ (h other)
    rw [habout]
    intro h
    exact heq (Option.some.inj h).symm

/-- What a call under the lock says, and that it changes nothing elsewhere. -/
theorem underLock_frame (manager : RustBridgeTransactionManager) (call : WaitingCall) :
    (TransactionServer.underLock manager call).2.address? = some call.address ∧
      ∀ other, other ≠ call.address →
        (TransactionServer.underLock manager call).1.find? other = manager.find? other := by
  have herase : ∀ address other, other ≠ address →
      (manager.erase address).find? other = manager.find? other := by
    intro address other hne
    rw [RustBridgeTransactionManager.find?_erase, if_neg hne]
  rcases call with ⟨address, transaction⟩ | address | ⟨address, exception | _⟩
  · refine ⟨rfl, ?_⟩
    intro other hne
    exact (RustBridgeTransactionManager.find?_insert manager address other transaction).trans
      (if_neg hne)
  · exact ⟨rfl, herase address⟩
  · exact ⟨rfl, herase address⟩
  · exact ⟨rfl, herase address⟩

/-- A call that finishes a transaction empties its address. -/
theorem underLock_ends {manager : RustBridgeTransactionManager} {call : WaitingCall}
    {address : Nat}
    (h : transactionLifetimes.ends (TransactionServer.underLock manager call).2 = some address) :
    call.address = address ∧
      (TransactionServer.underLock manager call).1 = manager.erase address := by
  rcases call with ⟨other, transaction⟩ | other | ⟨other, exception | _⟩
  · cases h
  all_goals
    cases h
    exact ⟨rfl, rfl⟩

theorem agrees_underLock {manager : RustBridgeTransactionManager} {call : WaitingCall}
    {history : List Observation} (hfits : call.Fits manager)
    (h : Agrees history call.address (manager.find? call.address)) :
    Agrees (history ++ [(TransactionServer.underLock manager call).2]) call.address
      ((TransactionServer.underLock manager call).1.find? call.address) := by
  have hends : ∀ address, call.address = address →
      transactionLifetimes.ends (TransactionServer.underLock manager call).2 = some address →
      Agrees (history ++ [(TransactionServer.underLock manager call).2]) call.address
        ((TransactionServer.underLock manager call).1.find? call.address) := by
    intro address heq hends
    rw [(underLock_ends hends).2, heq, RustBridgeTransactionManager.find?_erase, if_pos rfl]
    exact agrees_ended hends
  rcases call with ⟨address, transaction⟩ | address | ⟨address, exception | _⟩
  · rw [WaitingCall.address, hfits.1] at h
    simp only [TransactionServer.underLock, WaitingCall.address,
      RustBridgeTransactionManager.find?_insert, if_true]
    exact agrees_started h hfits.2
  · exact hends address rfl rfl
  · exact hends address rfl rfl
  · exact hends address rfl rfl

/-- **Every step keeps the invariant.** -/
theorem step_tracks {history : List Observation} {event : ManagerEvent κ}
    (h : Tracks server history) (hstep : server.step event = some (server', observation)) :
    Tracks server' (history ++ [observation]) := by
  cases step_does hstep with
  | refused exception =>
      exact ⟨table_unchanged h.table rfl, h.waiting, h.apart⟩
  | arrives client call hidle huntouched hfits =>
      -- the map is as before; the calls that wait are the old ones and this one
      have hcase : ∀ {other call'},
          (server.waiting.insert client call).find? other = some call' →
            (other = client ∧ call' = call) ∨ server.waiting.find? other = some call' := by
        intro other call' hcall'
        rw [KeyedMap.find?_insert] at hcall'
        split at hcall'
        · exact .inl ⟨‹_›, (Option.some.inj hcall').symm⟩
        · exact .inr hcall'
      refine ⟨table_unchanged h.table rfl, ?_, ?_⟩
      · intro other call' hcall'
        rcases hcase hcall' with ⟨_, rfl⟩ | hold
        · exact hfits
        · exact h.waiting other call' hold
      · intro first second call₁ call₂ h₁ h₂ hsame
        rcases hcase h₁ with ⟨rfl, rfl⟩ | hold₁ <;> rcases hcase h₂ with ⟨rfl, rfl⟩ | hold₂
        · rfl
        · exact absurd hsame.symm (address_ne_of_untouched huntouched hold₂)
        · exact absurd hsame (address_ne_of_untouched huntouched hold₁)
        · exact h.apart first second call₁ call₂ hold₁ hold₂ hsame
  | marks address transaction huntouched hfind =>
      -- no waiting call is about the marked one, so what they rely on stays
      have hframe : ∀ other, other ≠ address →
          (server.manager.insert address transaction.markWrite).find? other =
            server.manager.find? other := by
        intro other hne
        rw [RustBridgeTransactionManager.find?_insert, if_neg hne]
      refine ⟨table_changed h.table hframe rfl ?_, ?_, h.apart⟩
      · rw [RustBridgeTransactionManager.find?_insert, if_pos rfl]
        have hhere := h.table address
        rw [hfind] at hhere
        exact agrees_marked hhere
      · intro client call hcall
        exact (h.waiting client call hcall).congr
          (hframe _ (address_ne_of_untouched huntouched hcall))
  | takesLock client call hcall =>
      -- the map changes at the address of the call, and nobody else waits there
      obtain ⟨habout, hframe⟩ := underLock_frame server.manager call
      have hcase : ∀ {other call'}, (server.waiting.erase client).find? other = some call' →
          other ≠ client ∧ server.waiting.find? other = some call' := by
        intro other call' hcall'
        rw [KeyedMap.find?_erase] at hcall'
        split at hcall'
        · cases hcall'
        · exact ⟨‹_›, hcall'⟩
      refine ⟨table_changed h.table hframe habout ?_, ?_, ?_⟩
      · exact agrees_underLock (h.waiting client call hcall) (h.table call.address)
      · intro other call' hcall'
        obtain ⟨hne, hold⟩ := hcase hcall'
        refine (h.waiting other call' hold).congr (hframe _ ?_)
        intro hsame
        exact hne (h.apart other client call' call hold hcall hsame)
      · intro first second call₁ call₂ h₁ h₂ hsame
        exact h.apart first second call₁ call₂ (hcase h₁).2 (hcase h₂).2 hsame

/-- The invariant holds after every run, by induction on its events. -/
theorem run_tracks {events : List (ManagerEvent κ)} {history : List Observation}
    (h : TransactionServer.fresh.run events = some (server, history)) :
    Tracks server history :=
  runSteps_invariant (fun _ _ _ _ _ => step_tracks) events _ _ [] history tracks_fresh h

/-! ## What is in the table after a run -/

/-- The transaction at the address is gone, and no other one. -/
def Removes (before after : RustBridgeTransactionManager) (address : Nat) : Prop :=
  (before.find? address).isSome = true ∧
    ∀ other, after.find? other = if other = address then none else before.find? other

theorem RustBridgeTransaction.rollback_ne_ok_iff (transaction : RustBridgeTransaction) :
    transaction.rollback ≠ .ok () ↔ transaction.hasWrites = true := by
  cases h : transaction.hasWrites <;> simp [rollback, supportsTransactionRollback, h]

/-- A call that finishes a transaction finds it in the map. -/
theorem WaitingCall.Fits.isSome {manager : RustBridgeTransactionManager} {call : WaitingCall}
    {address : Nat} (h : call.Fits manager)
    (hends : transactionLifetimes.ends (TransactionServer.underLock manager call).2 =
      some address) : (manager.find? address).isSome = true := by
  rcases call with ⟨other, transaction⟩ | other | ⟨other, exception | _⟩
  · cases hends
  · obtain ⟨transaction, hfind⟩ := h
    cases hends
    rw [hfind]
    rfl
  all_goals
    obtain ⟨transaction, hfind, _⟩ := h
    cases hends
    rw [hfind]
    rfl

/-- The call that a rollback with this outcome was. -/
theorem underLock_rolledBack {manager : RustBridgeTransactionManager} {call : WaitingCall}
    {address : Nat} {outcome : Except Exception Unit}
    (h : (TransactionServer.underLock manager call).2 = .rolledBack address outcome) :
    call = .rollback address outcome := by
  rcases call with ⟨other, transaction⟩ | other | ⟨other, exception | _⟩ <;> cases h <;> rfl

/-- **The map holds exactly the live transactions.** After every run of any
clients, an address has an entry exactly if a transaction that started there was
not finished yet, and then it is one. A start that throws changes nothing; what
finishes a transaction, throwing or not, removes it and no other; and a rollback
throws exactly if that transaction was marked. -/
theorem transactions_tracked (events : List (ManagerEvent κ)) (server : TransactionServer κ)
    (history : List Observation)
    (hrun : TransactionServer.fresh.run events = some (server, history)) :
    (∀ address, (server.manager.find? address).isSome = true ↔
      ∃ birth, LiveTransaction history birth address) ∧
    (∀ address birth other, LiveTransaction history birth address →
      LiveTransaction history other address → birth = other) ∧
    ∀ event server' observation, server.step event = some (server', observation) →
      (∀ exception, observation = .startThrew exception → server' = server) ∧
      (∀ address, transactionLifetimes.ends observation = some address →
        Removes server.manager server'.manager address) ∧
      ∀ address outcome, observation = .rolledBack address outcome →
        ∃ birth, LiveTransaction history birth address ∧
          (outcome ≠ .ok () ↔ MarkedSince history birth address) := by
  have htracks := run_tracks hrun
  refine ⟨?_, ?_, ?_⟩
  · exact fun address => (htracks.table address).isSome_iff
  · intro address birth other hlives hother
    exact (htracks.table address).unique hlives hother
  · intro event server' observation hstep
    cases step_does hstep with
    | refused exception => exact ⟨fun _ _ => rfl, nofun, nofun⟩
    | arrives client call hidle huntouched hfits => exact ⟨nofun, nofun, nofun⟩
    | marks address transaction huntouched hfind => exact ⟨nofun, nofun, nofun⟩
    | takesLock client call hcall =>
        -- only here does the map lose an entry, and the call found it when it arrived
        have hfits := htracks.waiting client call hcall
        refine ⟨?_, ?_, ?_⟩
        · intro exception h
          rcases call with ⟨other, transaction⟩ | other | ⟨other, exception' | _⟩ <;> cases h
        · intro address hends
          refine ⟨hfits.isSome hends, ?_⟩
          intro other
          show (TransactionServer.underLock server.manager call).1.find? other = _
          rw [(underLock_ends hends).2, RustBridgeTransactionManager.find?_erase]
        · intro address outcome h
          rw [underLock_rolledBack h] at hfits
          obtain ⟨transaction, hfind, houtcome⟩ := hfits
          -- the flag was read before the lock was taken; `Tracks` says it has not changed since
          have hhere := htracks.table address
          rw [hfind] at hhere
          obtain ⟨birth, hlives, _, hflag⟩ := hhere
          refine ⟨birth, hlives, ?_⟩
          rw [houtcome, RustBridgeTransaction.rollback_ne_ok_iff, hflag]

end

/-! ## Three clients and one address twice -/

def mockAutoCommit : ClientContext := ⟨true, "INSERT INTO tasks VALUES ('new', 'new')"⟩

/-- Client 1 writes and rolls back, which throws, while client 2 commits; then
client 3 starts at the address of client 1. The start of client 4 is refused. -/
def mockManagerEvents : List (ManagerEvent Nat) := [
  .startTransaction 1 mockAutoCommit 16, .startTransaction 2 mockAutoCommit 32,
  .locked 2, .locked 1, .markWrite 1 16, .commitTransaction 2 32, .rollbackTransaction 1 16,
  .locked 1, .startTransaction 4 ⟨false, ""⟩ 48, .startTransaction 3 mockAutoCommit 16,
  .locked 3, .locked 2, .rollbackTransaction 3 16]

def mockManagerHistory : List Observation := [
  .waits, .waits, .started 32, .started 16, .marked 16, .waits, .waits,
  .rolledBack 16 (.error (.notImplemented transactionRollbackNotSupportedMessage)),
  .startThrew (.notImplemented explicitTransactionNotSupportedMessage), .waits, .started 16,
  .committed 32, .waits]

/-- The rollback of client 3 does not throw: it was client 1 that wrote, in the
transaction that had the address before. -/
theorem transactions_tracked_mock :
    ∃ server server' : TransactionServer Nat,
      TransactionServer.fresh.run mockManagerEvents = some (server, mockManagerHistory) ∧
      server.step (.locked 3) = some (server', .rolledBack 16 (.ok ())) ∧
      ∃ birth, LiveTransaction mockManagerHistory birth 16 ∧
        ¬ MarkedSince mockManagerHistory birth 16 := by
  refine ⟨_, _, rfl, rfl, ?_⟩
  obtain ⟨_, _, hsteps⟩ := transactions_tracked mockManagerEvents _ mockManagerHistory rfl
  obtain ⟨_, _, hrollback⟩ := hsteps (.locked 3) _ _ rfl
  obtain ⟨birth, hlives, hthrows⟩ := hrollback 16 (.ok ()) rfl
  exact ⟨birth, hlives, fun hmarked => hthrows.mpr hmarked rfl⟩

end DuckdbCoda

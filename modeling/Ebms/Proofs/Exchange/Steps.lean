import Ebms.Exchange.Run

/-! # Steps of an exchange

Steps follow one another until one fails.  Two facts about a row of steps are
needed again and again: what it leaves untouched in the journal, and where it
ends.  Both are put together from the same facts about the single steps. -/

set_option autoImplicit false

namespace Ebms

def Observers.told (o : Observers) (agenda : List Notice) : List Notice :=
  agenda.filter fun notice => o.watches notice.slot

def Observers.verdict (o : Observers) (notice : Notice) : Except ExchangeError Unit :=
  if o.watches notice.slot then (o.reply notice).mapError Refusal.toError else .ok ()

theorem Observers.told_append (o : Observers) (first second : List Notice) :
    o.told (first ++ second) = o.told first ++ o.told second := by
  simp [told]

theorem Observers.told_singleton (o : Observers) (notice : Notice) :
    o.told [notice] = if o.watches notice.slot then [notice] else [] := by
  by_cases watched : o.watches notice.slot <;> simp [told, watched]

def Clock.after (clock : Clock) (passed : Span) (waits : List Span) : Span :=
  waits.foldl (fun passed span => { nanos := passed.nanos + (clock.lasting passed span).nanos })
    passed

theorem Clock.after_append (clock : Clock) (passed : Span) (first second : List Span) :
    clock.after passed (first ++ second) = clock.after (clock.after passed first) second := by
  simp [after]

def Journal.retained (j : Journal) (body : Bytes) : Journal :=
  { j with held := j.held.retain body }

namespace Exchange

variable {α β : Type} {x : Exchange α} {next : α → Exchange β} {j k : Journal} {value : α}
  {error : ExchangeError}

@[simp] theorem runFrom_pure (value : α) (j : Journal) :
    (pure value : Exchange α).runFrom j = (.ok value, j) := rfl

@[simp] theorem runFrom_throw (error : ExchangeError) (j : Journal) :
    (throw error : Exchange α).runFrom j = (.error error, j) := rfl

theorem runFrom_modify_bind (change : Journal → Journal) (next : Unit → Exchange β)
    (j : Journal) : (modify change >>= next).runFrom j = (next ()).runFrom (change j) := rfl

theorem runFrom_bind_of_ok (first : x.runFrom j = (.ok value, k)) :
    (x >>= next).runFrom j = (next value).runFrom k := by
  have step : (x >>= next).runFrom j =
      ExceptT.bindCont next (x.runFrom j).1 (x.runFrom j).2 := rfl
  rw [step, first]
  rfl

theorem runFrom_bind_of_error (first : x.runFrom j = (.error error, k)) :
    (x >>= next).runFrom j = (.error error, k) := by
  have step : (x >>= next).runFrom j =
      ExceptT.bindCont next (x.runFrom j).1 (x.runFrom j).2 := rfl
  rw [step, first]
  rfl

theorem runFrom_bind_eq_ok {result : β} (done : ((x >>= next).runFrom j).1 = .ok result) :
    ∃ value k, x.runFrom j = (.ok value, k) ∧ ((next value).runFrom k).1 = .ok result := by
  cases first : x.runFrom j with
  | mk outcome k =>
      cases outcome with
      | error error =>
          rw [runFrom_bind_of_error first] at done
          cases done
      | ok value =>
          rw [runFrom_bind_of_ok first] at done
          exact ⟨value, k, rfl, done⟩

/-- Rows of steps agree that agree in their first steps and, from where these end, in
what follows. -/
theorem runFrom_bind_congr {y : Exchange α} {other : α → Exchange β}
    (first : x.runFrom j = y.runFrom k)
    (rest : ∀ value l, y.runFrom k = (.ok value, l) →
      (next value).runFrom l = (other value).runFrom l) :
    (x >>= next).runFrom j = (y >>= other).runFrom k := by
  cases ran : y.runFrom k with
  | mk result l =>
      rw [ran] at first
      cases result with
      | error error => rw [runFrom_bind_of_error first, runFrom_bind_of_error ran]
      | ok value => rw [runFrom_bind_of_ok first, runFrom_bind_of_ok ran, rest value l ran]

theorem runFrom_orFail (result : Except ExchangeError α) (j : Journal) :
    (orFail result).runFrom j = (result, j) := by
  cases result <;> rfl

theorem runFrom_announce (o : Observers) (notice : Notice) (j : Journal) :
    (announce o notice).runFrom j =
      (.ok (), { j with notices := j.notices ++ o.told [notice] }) := by
  rw [announce, Observers.told_singleton]
  split
  · rfl
  · rw [List.append_nil, runFrom_pure]

theorem runFrom_observe (o : Observers) (notice : Notice) (j : Journal) :
    (observe o notice).runFrom j =
      (o.verdict notice, { j with notices := j.notices ++ o.told [notice] }) := by
  rw [observe, runFrom_bind_of_ok (runFrom_announce o notice j), Observers.verdict]
  split
  · cases o.reply notice <;> rfl
  · rfl

theorem runFrom_forM_wait (clock : Clock) (waits : List Span) (j : Journal) :
    (waits.forM (wait clock)).runFrom j =
      (.ok (), { j with elapsed := clock.after j.elapsed waits }) := by
  induction waits generalizing j with
  | nil => rfl
  | cons first later inductionHypothesis =>
      have step : ((first :: later).forM (wait clock) : Exchange Unit) =
          (wait clock first >>= fun _ => later.forM (wait clock)) := rfl
      have once : (wait clock first).runFrom j =
          (.ok (), { j with elapsed := clock.after j.elapsed [first] }) := rfl
      rw [step, runFrom_bind_of_ok once, inductionHypothesis]
      rfl

theorem runFrom_get_bind (next : Journal → Exchange β) (j : Journal) :
    (get >>= next).runFrom j = (next j).runFrom j := rfl

theorem runFrom_retain (disk : Disk) (body : Bytes) (j : Journal) :
    (retain disk body).runFrom j =
      match disk.retainFault? j body with
      | some reason => (.error (.wrapped reason), j)
      | none => (.ok j.held.scope.held.length, j.retained body) := by
  rw [retain, runFrom_get_bind]
  cases disk.retainFault? j body <;> rfl

theorem runFrom_retain_working (body : Bytes) (j : Journal) :
    (retain .working body).runFrom j = (.ok j.held.scope.held.length, j.retained body) :=
  runFrom_retain .working body j

/-! ## What is left untouched -/

/-- A row of steps leaves some view of the journal as it was. -/
def Keeps {γ : Type} (x : Exchange α) (view : Journal → γ) : Prop :=
  ∀ j, view (x.runFrom j).2 = view j

section Keeps

variable {γ : Type} {view : Journal → γ}

theorem Keeps.pure (value : α) : Keeps (Pure.pure value) view := by
  intro j
  rfl

theorem Keeps.throw (error : ExchangeError) : Keeps (throw error : Exchange α) view := by
  intro j
  rfl

theorem Keeps.modify {change : Journal → Journal} (same : ∀ j, view (change j) = view j) :
    Keeps (modify change : Exchange Unit) view := by
  intro j
  exact same j

/-- Steps that leave a view as it was can be dropped from the end of a row. -/
theorem Keeps.runFrom_bind (second : ∀ value, Keeps (next value) view) (j : Journal) :
    view ((x >>= next).runFrom j).2 = view (x.runFrom j).2 := by
  cases ran : x.runFrom j with
  | mk result k =>
      cases result with
      | error error => rw [runFrom_bind_of_error ran]
      | ok value => rw [runFrom_bind_of_ok ran, second value k]

theorem Keeps.bind (first : Keeps x view) (second : ∀ value, Keeps (next value) view) :
    Keeps (x >>= next) view := by
  intro j
  rw [Keeps.runFrom_bind second, first]

theorem Keeps.orFail (result : Except ExchangeError α) : Keeps (orFail result) view := by
  intro j
  rw [runFrom_orFail]

theorem Keeps.observe {o : Observers} {notice : Notice}
    (same : ∀ j, view { j with notices := j.notices ++ [notice] } = view j) :
    Keeps (observe o notice) view := by
  intro j
  rw [runFrom_observe, Observers.told_singleton]
  split
  · exact same j
  · rw [List.append_nil]

theorem Keeps.retain {disk : Disk} {body : Bytes}
    (same : ∀ j held, view { j with held } = view j) : Keeps (retain disk body) view := by
  intro j
  rw [runFrom_retain]
  split
  · rfl
  · exact same j _

theorem Keeps.fetch (disk : Disk) (handle : Nat) : Keeps (fetch disk handle) view := by
  intro j
  rw [Exchange.fetch, runFrom_get_bind]
  cases j.held.read handle with
  | error error => rfl
  | ok resource =>
      simp only
      cases disk.fetchFault? j resource <;> rfl

theorem Keeps.forM_wait {clock : Clock} {waits : List Span}
    (same : ∀ j elapsed, view { j with elapsed } = view j) :
    Keeps (waits.forM (wait clock)) view := by
  intro j
  rw [runFrom_forM_wait]
  exact same j _

/-- A row of steps succeeds, or it leaves some view of the journal as it was. -/
def KeepsUnlessOk (x : Exchange α) (view : Journal → γ) : Prop :=
  ∀ j, view (x.runFrom j).2 = view j ∨ ∃ value, (x.runFrom j).1 = .ok value

theorem KeepsUnlessOk.bind (first : Keeps x view)
    (second : ∀ value, KeepsUnlessOk (next value) view) : KeepsUnlessOk (x >>= next) view := by
  intro j
  have kept := first j
  cases ran : x.runFrom j with
  | mk result k =>
      rw [ran] at kept
      cases result with
      | error error => exact .inl (by rw [runFrom_bind_of_error ran, kept])
      | ok value =>
          rw [runFrom_bind_of_ok ran, ← kept]
          exact second value k

end Keeps

end Exchange

end Ebms

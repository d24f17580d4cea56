import Ebms.Proofs.Exchange.RetryBudget

/-! # Server errors without a message

A server error may pass, and an attempt that ends with one is made again, unless the
answer carries a SOAP message that tells what went wrong.  Whether it does is decided
by its content type, before the body is looked at.  So a server error with a blank body
is retried exactly when its content type is not that of a SOAP message; with such a
content type it counts as received, and the exchange fails for good. -/

set_option autoImplicit false

namespace Ebms

structure Response.IsBareServerError (response : Response) : Prop where
  server : 500 ≤ response.status ∧ response.status ≤ 599
  blank : response.body.all isBlankByte = true

/-- All attempts before fail for a passing reason, and the exchange is not cancelled in
the pauses after them. -/
structure Circumstances.Reaches (c : Circumstances) (attempt : Nat) : Prop where
  positive : 1 ≤ attempt
  passing : ∀ k, 1 ≤ k → k < attempt → (c.outcome k).isPassing = true
  going : ∀ k, 1 ≤ k → k < attempt → c.cancelled k = false

section Answers

variable {c : Circumstances} {attempt : Nat} {response : Response}

theorem received_of_bareServerError (bare : response.IsBareServerError)
    (answered : c.outcome attempt = .answered response) :
    c.received attempt =
      if response.contentType.any isSoapContentType then .ok response
      else .error (.serverError response.status) := by
  obtain ⟨server, -⟩ := bare
  have failure : ¬ (200 ≤ response.status ∧ response.status ≤ 299) := by omega
  have admitted : ¬ (response.status = 401 ∨ response.status = 403) := by omega
  rw [Circumstances.received, answered, Outcome.received, classifyStatus, if_neg failure,
    if_neg admitted, if_pos server]
  by_cases soap : response.contentType.any isSoapContentType = true
  · simp only [if_pos soap]
  · simp only [if_neg soap]

theorem Exchange.finish_of_bareServerError {r : ExchangeRequest} {wire : WireMessage}
    (bare : response.IsBareServerError) (j : Journal) :
    ((finish c r wire (attempt, response)).runFrom j).1 =
      .error (.protocol (.unexpectedStatus response.status)) := by
  obtain ⟨server, blank⟩ := bare
  have failure : ¬ (200 ≤ response.status ∧ response.status ≤ 299) := by omega
  have read : receivedIn response = .ok none := by
    rw [receivedIn, decode, if_pos blank]
  have judged : judge (signaturePolicy c r) r.expected response.status none =
      .error (.protocol (.unexpectedStatus response.status)) := by
    simp [judge, SignaturePolicy.check, checkStatus, failure]
  have rejected (k : Journal) : ((accept c r attempt response).runFrom k).1 =
      .error (.protocol (.unexpectedStatus response.status)) := by
    obtain ⟨counts, counted⟩ := runFrom_countVerification (signaturePolicy c r) none k
    rw [accept, read, runFrom_bind_of_ok (runFrom_orFail _ _), runFrom_bind_of_ok counted, judged,
      runFrom_bind_of_error (runFrom_orFail _ _)]
  obtain ⟨before, step, -⟩ := exists_runFrom_finish c r wire attempt response j
  cases ran : (accept c r attempt response).runFrom before with
  | mk result after =>
      have failed := rejected before
      rw [ran] at failed
      dsimp only at failed
      subst failed
      rw [step, runFrom_bind_of_error ran]

end Answers

theorem Circumstances.received_of_isPassing {c : Circumstances} {attempt : Nat}
    (passing : (c.outcome attempt).isPassing = true) :
    ∃ cause, c.received attempt = .error cause ∧ cause.isRetriable = true :=
  Outcome.isPassing_iff.mp passing

namespace Circumstances.Course

variable {c : Circumstances} {retry : RetryPolicy} {causes : List TransportError} {ending : Ending}
  {attempt : Nat}

theorem le_of_reaches (course : c.Course 1 (retry.maxAttempts - 1) causes ending)
    (reached : c.Reaches attempt) (allowed : attempt ≤ retry.maxAttempts) :
    attempt ≤ 1 + causes.length := by
  by_contra later
  have last := course.last
  have stops := course.stops
  obtain ⟨cause, failed, passing⟩ := Circumstances.received_of_isPassing
    (reached.passing (1 + causes.length) (by omega) (by omega))
  rw [failed] at last
  cases ending with
  | answered response => cases last
  | failed given =>
      cases last
      rcases stops with spent | lasting
      · omega
      · rw [passing] at lasting
        cases lasting
  | cancelled given =>
      have here : c.cancelled (1 + causes.length) = true := stops.2.2
      rw [reached.going _ (by omega) (by omega)] at here
      cases here

end Circumstances.Course

namespace Exchange

/-- The retry of an attempt is announced with its cause, and another transmission
follows, unless the exchange is cancelled in the pause. -/
structure IsRetried (c : Circumstances) (r : ExchangeRequest) (envelope : Envelope)
    (start : Journal) (attempt : Nat) (cause : TransportError) : Prop where
  announced : ∃ told, (execute c r start).2.retries = start.retries ++ told ∧
    (r.observers.watches .retry = true → .retry attempt cause ∈ told)
  followed : (∃ attempts, attempt < attempts ∧
      (execute c r start).2.sent = start.sent ++
        List.replicate attempts (transmissionOf r (envelope.encode c.boundary))) ∨
    c.cancelled attempt = true ∧ (execute c r start).1 = .error (.cancelled attempt)

variable {c : Circumstances} {r : ExchangeRequest} {envelope : Envelope} {attempt : Nat}
  {response : Response} {cause : TransportError} {start : Journal}

theorem mem_retryNotices {first : Nat} {causes : List TransportError} {position : Nat}
    (found : causes[position]? = some cause) :
    .retry (first + position) cause ∈ retryNotices first causes := by
  induction causes generalizing first position with
  | nil => cases found
  | cons head tail inductionHypothesis =>
      rw [retryNotices_cons]
      cases position with
      | zero =>
          cases found
          exact List.mem_cons_self
      | succ position =>
          have later : .retry (first + 1 + position) cause ∈ retryNotices (first + 1) tail :=
            inductionHypothesis found
          rw [Nat.add_right_comm, Nat.add_assoc] at later
          exact List.mem_cons_of_mem _ later

theorem HasTransmitted.announced {attempts pauses : Nat} {finish : Journal}
    (done : HasTransmitted c r envelope attempts pauses start finish) (positive : 1 ≤ attempt)
    (paused : attempt ≤ pauses) (received : c.received attempt = .error cause) :
    ∃ told, finish.retries = start.retries ++ told ∧
      (r.observers.watches .retry = true → .retry attempt cause ∈ told) := by
  obtain ⟨causes, failed, told⟩ := done.told
  refine ⟨_, told, fun watched => List.mem_filter.mpr ⟨?_, watched⟩⟩
  obtain ⟨position, rfl⟩ := Nat.exists_eq_add_of_le positive
  have inside : position < pauses := by omega
  have here : causes[position]? = some cause := by
    have result := congrArg (fun results => results[position]?) failed
    rw [List.getElem?_map, List.getElem?_map, List.getElem?_range' inside] at result
    simpa [received, eq_comm] using result
  exact mem_retryNotices here

theorem isRetried_of_passing (prepared : r.IsPrepared c envelope) (start : Journal)
    (reached : c.Reaches attempt) (left : attempt < r.retry.maxAttempts)
    (received : c.received attempt = .error cause) (passing : cause.isRetriable = true) :
    IsRetried c r envelope start attempt cause := by
  obtain ⟨causes, ending, course, done, k, result⟩ := execute_of_prepared prepared start
  rcases Nat.lt_or_eq_of_le (course.le_of_reaches reached left.le) with before | last
  · have paused : attempt ≤ (ending.paused causes).length := by
      cases ending <;> simp only [Ending.paused, List.length_append, List.length_singleton] <;>
        omega
    exact ⟨done.announced reached.positive paused received, .inl ⟨_, before, done.sent⟩⟩
  · -- The last attempt of a course fails for a passing reason only if it is cancelled.
    have same := course.last
    have stops := course.stops
    rw [← last, received] at same
    cases ending with
    | answered response => cases same
    | failed given =>
        cases same
        rcases stops with spent | lasting
        · omega
        · rw [passing] at lasting
          cases lasting
    | cancelled given =>
        have cancelled : c.cancelled attempt = true := last ▸ stops.2.2
        have paused : attempt ≤ (Ending.paused causes (.cancelled given)).length := by
          simp only [Ending.paused, List.length_append, List.length_singleton]
          omega
        refine ⟨done.announced reached.positive paused received, .inr ⟨cancelled, ?_⟩⟩
        rw [result, ← last]
        rfl

theorem execute_of_received (prepared : r.IsPrepared c envelope) (start : Journal)
    (reached : c.Reaches attempt) (allowed : attempt ≤ r.retry.maxAttempts)
    (received : c.received attempt = .ok response) :
    HasTransmitted c r envelope attempt (attempt - 1) start (execute c r start).2 ∧
      ∃ k, (execute c r start).1 =
        ((finish c r (envelope.encode c.boundary) (attempt, response)).runFrom k).1 := by
  obtain ⟨causes, ending, course, done, k, result⟩ := execute_of_prepared prepared start
  have last : attempt = 1 + causes.length := by
    rcases Nat.lt_or_eq_of_le (course.le_of_reaches reached allowed) with before | last
    · obtain ⟨cause, failed, -⟩ :=
        Circumstances.received_of_isPassing (course.passing_of_lt reached.positive before)
      rw [received] at failed
      cases failed
    · exact last
  have same := course.last
  rw [← last, received] at same
  cases ending with
  | answered given =>
      cases same
      rw [← last] at done result
      have pauses : (Ending.paused causes (.answered response)).length = attempt - 1 := by
        simp only [Ending.paused]
        omega
      rw [pauses] at done
      exact ⟨done, k, result⟩
  | failed given => cases same
  | cancelled given => cases same

/-- Under the content type of a SOAP message a server error with a blank body ends the
exchange. -/
theorem execute_of_bareServerError (prepared : r.IsPrepared c envelope) (start : Journal)
    (reached : c.Reaches attempt) (allowed : attempt ≤ r.retry.maxAttempts)
    (answered : c.outcome attempt = .answered response) (bare : response.IsBareServerError)
    (soap : response.contentType.any isSoapContentType = true) :
    HasTransmitted c r envelope attempt (attempt - 1) start (execute c r start).2 ∧
      (execute c r start).1 = .error (.protocol (.unexpectedStatus response.status)) := by
  have received := received_of_bareServerError bare answered
  rw [if_pos soap] at received
  obtain ⟨done, k, result⟩ := execute_of_received prepared start reached allowed received
  exact ⟨done, result.trans (finish_of_bareServerError bare k)⟩

theorem not_isRetried_of_error {error : ProtocolError} {pauses : Nat}
    (done : HasTransmitted c r envelope attempt pauses start (execute c r start).2)
    (failed : (execute c r start).1 = .error (.protocol error)) :
    ¬ IsRetried c r envelope start attempt cause := by
  rintro ⟨-, ⟨attempts, more, sent⟩ | ⟨-, cancelled⟩⟩
  · have lengths := congrArg List.length (done.sent.symm.trans sent)
    simp only [List.length_append, List.length_replicate] at lengths
    omega
  · rw [failed] at cancelled
    cases cancelled

/-- An attempt with one more allowed that is answered by a server error with a blank body
is retried exactly when the content type is not that of a SOAP message; and with such a
content type the exchange ends here. -/
theorem isRetried_iff_of_bareServerError (prepared : r.IsPrepared c envelope) (start : Journal)
    (reached : c.Reaches attempt) (left : attempt < r.retry.maxAttempts)
    (answered : c.outcome attempt = .answered response) (bare : response.IsBareServerError) :
    (IsRetried c r envelope start attempt (.serverError response.status) ↔
      response.contentType.any isSoapContentType = false) ∧
    (response.contentType.any isSoapContentType = true →
      HasTransmitted c r envelope attempt (attempt - 1) start (execute c r start).2 ∧
        (execute c r start).1 = .error (.protocol (.unexpectedStatus response.status))) := by
  have ends := execute_of_bareServerError prepared start reached left.le answered bare
  refine ⟨⟨fun retried => ?_, fun other => ?_⟩, ends⟩
  · by_contra soap
    obtain ⟨done, failed⟩ := ends (by simpa using soap)
    exact not_isRetried_of_error done failed retried
  · have received := received_of_bareServerError bare answered
    rw [if_neg (by simp [other])] at received
    exact isRetried_of_passing prepared start reached left received rfl

def overloaded (contentType : Option String) : Nat → Outcome
  | 1 => .silent
  | 2 => .answered { status := 503, contentType, body := [0x0D, 0x0A] }
  | _ => .answered .empty

theorem overloaded_reaches (contentType : Option String) (cancelled : Nat → Bool)
    (going : cancelled 1 = false) :
    (sampleCircumstances (overloaded contentType) cancelled).Reaches 2 where
  positive := by decide
  passing := by
    intro k started before
    obtain rfl : k = 1 := by omega
    rfl
  going := by
    intro k started before
    obtain rfl : k = 1 := by omega
    exact going

theorem isBareServerError_overloaded (contentType : Option String) :
    Response.IsBareServerError { status := 503, contentType, body := [0x0D, 0x0A] } :=
  ⟨⟨Nat.le_add_left 500 3, Nat.le_add_left 503 96⟩, rfl⟩

/-- The second attempt is made again when the answer is an HTML page without a text. -/
theorem isRetried_iff_of_bareServerError_overloaded :
    IsRetried (sampleCircumstances (overloaded (some "text/html")) fun _ => false)
      (sampleRequest samplePolicy) Envelope.sampleSigned default 2 (.serverError 503) := by
  obtain ⟨retried, -⟩ := isRetried_iff_of_bareServerError
    (sampleRequest_isPrepared (overloaded (some "text/html")) (fun _ => false) samplePolicy)
    default (overloaded_reaches _ _ rfl) (by decide) rfl (isBareServerError_overloaded _)
  exact retried.mpr (by decide)

/-- A blank body under a SOAP content type ends the exchange, with four attempts left. -/
theorem not_isRetried_overloaded :
    (sampleCircumstances (overloaded (some "text/xml; charset=utf-8")) fun _ => false).Reaches 2 ∧
      2 < (sampleRequest samplePolicy).retry.maxAttempts ∧
      Response.IsBareServerError
        { status := 503, contentType := some "text/xml; charset=utf-8", body := [0x0D, 0x0A] } ∧
      ¬ IsRetried (sampleCircumstances (overloaded (some "text/xml; charset=utf-8")) fun _ => false)
        (sampleRequest samplePolicy) Envelope.sampleSigned default 2 (.serverError 503) := by
  have reached := overloaded_reaches (some "text/xml; charset=utf-8") (fun _ => false) rfl
  have bare := isBareServerError_overloaded (some "text/xml; charset=utf-8")
  refine ⟨reached, by decide, bare, ?_⟩
  obtain ⟨done, failed⟩ := execute_of_bareServerError
    (sampleRequest_isPrepared (overloaded (some "text/xml; charset=utf-8")) (fun _ => false)
      samplePolicy)
    default reached (by decide) rfl bare (by decide)
  exact not_isRetried_of_error done failed

end Exchange

end Ebms

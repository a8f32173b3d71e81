import BucketStore.Pool.Manager
import BucketStore.Proofs.Action
import BucketStore.Proofs.Pause
import BucketStore.Schedule

/-!
Opening a pool: it is tried again after operational faults as long as attempts are left, with one
pause before each further try, and every pool that could not be opened is closed before the next
one is made.
-/

namespace BucketStore

variable {σ : Type} [Surroundings σ]

namespace Pool

/-- What escapes a try to open a pool: nothing, the fault of opening it, or the one of closing it
again in place of that. -/
def tryOutcome (s : σ) : Option Fault × σ :=
  match Surroundings.strike .openPool s with
  | (none, s₁) => (none, s₁)
  | (some first, s₁) =>
    match Surroundings.strike .closePool s₁ with
    | (none, s₂) => (some first.fault, s₂)
    | (some second, s₂) => (some second.fault, s₂)

/-- What escapes each of the tries that follow one another. -/
def outcome (s : σ) : Nat → Option Fault
  | 0 => (tryOutcome s).1
  | k + 1 => outcome (tryOutcome s).2 k

/-- A pool as it is created for settings. -/
def fresh (s : DatabaseSettings) : PoolState :=
  { size := s.poolSize, testQuery := s.testQuery }

/-- What happens in a try. -/
def tryEvents (s : DatabaseSettings) (conninfo : String) (opened : Bool) : List Event :=
  .newPool conninfo s.poolSize s.timeout (s.maxLifetime.getD unlimited) :: .openPool s.timeout ::
    if opened then [] else [.closePool]

omit [Surroundings σ] in
private theorem create_apply (conninfo : String) (s : DatabaseSettings) (w : World σ) :
    create conninfo s w = (.ok w.pools.length, { w with
      events := w.events ++
        [.newPool conninfo s.poolSize s.timeout (s.maxLifetime.getD unlimited)]
      pools := w.pools ++ [fresh s] }) :=
  rfl

theorem modify_last (ps : List PoolState) (p : PoolState) (f : PoolState → PoolState) :
    (ps ++ [p]).modify ps.length f = ps ++ [f p] := by
  induction ps with
  | nil => rfl
  | cons q ps ih => exact congrArg (q :: ·) ih

theorem touch_eq (contact : Contact) (w : World σ) :
    touch contact w =
      (match (Surroundings.strike contact w.surroundings).1 with
        | none => .ok ()
        | some strike => .error strike.fault,
      { w with surroundings := (Surroundings.strike contact w.surroundings).2 }) := by
  rcases struck : Surroundings.strike contact w.surroundings with ⟨_ | strike, s⟩ <;>
    simp [touch, Action.bind_apply, Action.ask_apply, struck]

/-- Opening a pool opens it, unless it ends in a fault. -/
theorem open_eq (id : Id) (timeout : Float) (w : World σ) :
    open_ id timeout w =
      match Surroundings.strike .openPool w.surroundings with
      | (none, s) => (.ok (), { w with
          surroundings := s
          events := w.events ++ [.openPool timeout]
          pools := w.pools.modify id fun p => { p with closed := false } })
      | (some strike, s) => (.error strike.fault, { w with
          surroundings := s
          events := w.events ++ [.openPool timeout] }) := by
  let opening : World σ := { w with events := w.events ++ [.openPool timeout] }
  have recorded : Action.record (.openPool timeout) w = (.ok (), opening) := rfl
  have touched := touch_eq .openPool opening
  rw [open_, Action.bind_of_ok recorded]
  rcases struck : Surroundings.strike .openPool w.surroundings with ⟨_ | strike, s⟩
  · rw [struck] at touched
    rw [Action.bind_of_ok touched]
    rfl
  · rw [struck] at touched
    rw [Action.bind_of_error touched]

/-- Closing a pool closes it, also where the closing ends in a fault. -/
theorem close_eq (id : Id) (w : World σ) :
    close id w =
      (match (Surroundings.strike .closePool w.surroundings).1 with
        | none => .ok ()
        | some strike => .error strike.fault,
      { w with
        surroundings := (Surroundings.strike .closePool w.surroundings).2
        events := w.events ++ [.closePool]
        disposals := w.disposals ++ [(id, ((get? id w).map (·.out)).getD 0)]
        pools := w.pools.modify id fun p => { p with closed := true } }) := by
  let noted : World σ := { w with
    events := w.events ++ [.closePool]
    disposals := w.disposals ++ [(id, ((get? id w).map (·.out)).getD 0)] }
  have closes : close id w = (modify id (fun p => { p with closed := true }) >>=
      fun _ => touch .closePool) noted := rfl
  rw [closes]
  exact touch_eq .closePool (modify id (fun p => { p with closed := true }) noted).2

end Pool

namespace Manager

open Pool

/-- One try, by its outcome. -/
theorem openPoolOnce_apply {s : DatabaseSettings} {conninfo : String}
    (usable : s.conninfo = .ok conninfo) (w : World σ) :
    openPoolOnce s w =
      (match (tryOutcome w.surroundings).1 with
        | none => .ok w.pools.length
        | some fault => .error fault,
      { w with
        surroundings := (tryOutcome w.surroundings).2
        events := w.events ++ tryEvents s conninfo (tryOutcome w.surroundings).1.isNone
        disposals := w.disposals ++
          if (tryOutcome w.surroundings).1.isSome then [(w.pools.length, 0)] else []
        pools := w.pools ++
          [{ fresh s with closed := (tryOutcome w.surroundings).1.isSome }] }) := by
  have checked : Action.ofExcept s.conninfo w = (.ok conninfo, w) := by
    rw [usable]
    rfl
  rw [openPoolOnce, Action.bind_of_ok checked, Action.bind_of_ok (create_apply conninfo s w),
    Action.bind_apply, Action.attempt_apply, open_eq]
  dsimp only
  rcases opened : Surroundings.strike .openPool w.surroundings with ⟨_ | first, s₁⟩
  · have ran : tryOutcome w.surroundings = (none, s₁) := by rw [tryOutcome, opened]
    rw [ran]
    simp only [modify_last, tryEvents, List.append_assoc, Option.isSome_none, Bool.false_eq_true,
      if_false, List.append_nil]
    rfl
  · rcases closed : Surroundings.strike .closePool s₁ with ⟨_ | second, s₂⟩
    · have ran : tryOutcome w.surroundings = (some first.fault, s₂) := by
        rw [tryOutcome, opened]
        simp only [closed]
      rw [ran]
      simp only [Action.bind_apply, close_eq, closed, modify_last, tryEvents, List.append_assoc,
        get?, List.getElem?_concat_length]
      rfl
    · have ran : tryOutcome w.surroundings = (some second.fault, s₂) := by
        rw [tryOutcome, opened]
        simp only [closed]
      rw [ran]
      simp only [Action.bind_apply, close_eq, closed, modify_last, tryEvents, List.append_assoc,
        get?, List.getElem?_concat_length]
      rfl

/-- A row of tries out of a number of allowed ones. All but the last ended in operational faults;
the last one succeeded, ended in a fault of another kind, or was the last one allowed. -/
structure Tried (s : DatabaseSettings) (conninfo : String) (allowed : Nat) (w : World σ)
    (last : Nat) (result : Except Fault Pool.Id) (w' : World σ) : Prop where
  within : last < allowed
  again : ∀ k < last, ∃ fault, outcome w.surroundings k = some fault ∧ fault.isOperational = true
  stops : ∀ fault, outcome w.surroundings last = some fault → fault.isOperational = true →
    last + 1 = allowed
  result : result = match outcome w.surroundings last with
    | none => .ok (w.pools.length + last)
    | some fault => .error fault
  events : ∃ pauses : List Float, pauses.length = last ∧ (∀ pause ∈ pauses, pause ≤ 10.0) ∧
    w'.events = w.events
      ++ pauses.flatMap (fun pause => tryEvents s conninfo false ++ [.sleep pause])
      ++ tryEvents s conninfo (outcome w.surroundings last).isNone
  pools : w'.pools = w.pools ++ List.replicate last (fresh s)
    ++ [{ fresh s with closed := (outcome w.surroundings last).isSome }]

variable {s : DatabaseSettings} {conninfo : String}

/-- A single try, if nothing asks for another one. -/
theorem Tried.one {allowed : Nat} {w : World σ} (within : 0 < allowed)
    (stops : ∀ fault, (tryOutcome w.surroundings).1 = some fault →
      fault.isOperational = true → 1 = allowed)
    (usable : s.conninfo = .ok conninfo) :
    Tried s conninfo allowed w 0 (openPoolOnce s w).1 (openPoolOnce s w).2 := by
  rw [openPoolOnce_apply usable]
  refine ⟨within, fun k none => absurd none (Nat.not_lt_zero k), ?_, rfl, ?_, ?_⟩
  · simpa [outcome] using stops
  · exact ⟨[], rfl, by simp, by simp [outcome]⟩
  · simp [outcome]

/-- A failed try and a pause go before the tries that follow them. -/
theorem Tried.cons {allowed last : Nat} {w w' : World σ} {result : Except Fault Pool.Id}
    {fault : Fault} {pause : Float} (failed : (tryOutcome w.surroundings).1 = some fault)
    (operational : fault.isOperational = true) (short : pause ≤ 10.0)
    (usable : s.conninfo = .ok conninfo)
    (rest : Tried s conninfo allowed
      { (openPoolOnce s w).2 with events := (openPoolOnce s w).2.events ++ [.sleep pause] }
      last result w') : Tried s conninfo (allowed + 1) w (last + 1) result w' := by
  rw [openPoolOnce_apply usable, failed] at rest
  obtain ⟨within, again, stops, ended, ⟨pauses, count, bounded, events⟩, pools⟩ := rest
  refine ⟨Nat.succ_lt_succ within, ?_, ?_, ?_, ⟨pause :: pauses, ?_, ?_, ?_⟩, ?_⟩
  · rintro (_ | k) before
    · exact ⟨fault, failed, operational⟩
    · exact again k (Nat.lt_of_succ_lt_succ before)
  · intro other last operational
    exact congrArg (· + 1) (stops other last operational)
  · rw [ended]
    change _ = match outcome (tryOutcome w.surroundings).2 last with
      | none => Except.ok (w.pools.length + (last + 1))
      | some fault => .error fault
    cases outcome (tryOutcome w.surroundings).2 last with
    | some fault => rfl
    | none =>
      rw [List.length_append, List.length_singleton, Nat.add_assoc, Nat.add_comm 1 last]
  · exact congrArg (· + 1) count
  · simpa using ⟨short, bounded⟩
  · simp [events, outcome]
  · simp [pools, outcome, List.replicate_succ]
    rfl

/-- One round of opening: after an operational fault another one follows, unless the attempts are
spent. -/
theorem openPool_succ {retry : Retry} {made : Nat} {pause : Float} {spent : Bool}
    (paused : retry.pauseAfter (made + 1) = .ok pause)
    (counted : retry.isSpent (made + 1) = .ok spent) (left : Nat) (w : World σ) :
    openPool s retry made (left + 1) w = match openPoolOnce s w with
      | (.ok pool, w₁) => (.ok pool, w₁)
      | (.error fault, w₁) =>
        if fault.isOperational = true ∧ spent = false then
          openPool s retry (made + 1) left { w₁ with events := w₁.events ++ [.sleep pause] }
        else (.error fault, w₁) := by
  rw [openPool, Action.bind_apply, Action.attempt_apply]
  rcases openPoolOnce s w with ⟨fault | pool, w₁⟩
  · dsimp only
    cases operational : fault.isOperational with
    | false => rfl
    | true =>
      simp only [Action.ofProblem, paused, counted]
      cases spent <;> rfl
  · rfl

section

variable {retry : Retry} {n : Int} (attempts : retry.attempts = .int n)
  (number : (∃ f, retry.backoff = .float f) ∨ ∃ i, retry.backoff = .int i)
  (usable : s.conninfo = .ok conninfo)
include attempts number usable

/-- A round is the last one if it ends in no operational fault, or spends the attempts. -/
theorem openPool_stops {left made : Nat} {w : World σ} (sum : made + left + 1 = max 1 n.toNat)
    (stops : ∀ fault, (tryOutcome w.surroundings).1 = some fault → fault.isOperational = true →
      left = 0) :
    Tried s conninfo (left + 1) w 0 (openPool s retry made (left + 1) w).1
      (openPool s retry made (left + 1) w).2 := by
  obtain ⟨pause, paused, -⟩ := Retry.pauseAfter_of_number number (made + 1)
  have counted : retry.isSpent (made + 1) = .ok (decide (n ≤ (made + 1 : Nat))) := by
    rw [Retry.isSpent, attempts]
  have only : openPool s retry made (left + 1) w = openPoolOnce s w := by
    rw [openPool_succ paused counted, openPoolOnce_apply usable]
    cases ended : (tryOutcome w.surroundings).1 with
    | none => rfl
    | some fault =>
      refine if_neg fun again => ?_
      have last := stops fault ended again.1
      have unspent := of_decide_eq_false again.2
      omega
  rw [only]
  refine .one (Nat.succ_pos left) (fun fault ended operational => ?_) usable
  rw [stops fault ended operational]

/-- After an operational fault the next round follows, as long as attempts are left. -/
theorem openPool_goes_on {left made : Nat} {w : World σ} {fault : Fault}
    (sum : made + (left + 1) + 1 = max 1 n.toNat)
    (failed : (tryOutcome w.surroundings).1 = some fault)
    (operational : fault.isOperational = true) :
    ∃ pause, pause ≤ 10.0 ∧ openPool s retry made (left + 2) w =
      openPool s retry (made + 1) (left + 1)
        { (openPoolOnce s w).2 with events := (openPoolOnce s w).2.events ++ [.sleep pause] } := by
  obtain ⟨pause, paused, short⟩ := Retry.pauseAfter_of_number number (made + 1)
  have counted : retry.isSpent (made + 1) = .ok false := by
    rw [Retry.isSpent, attempts]
    exact congrArg Except.ok (decide_eq_false (by omega))
  refine ⟨pause, short, ?_⟩
  rw [openPool_succ paused counted, openPoolOnce_apply usable, failed]
  exact if_pos ⟨operational, rfl⟩

/-- Opening tries as long as attempts are left, and pauses before it tries again. -/
theorem openPool_tried (left made : Nat) (w : World σ) (sum : made + left + 1 = max 1 n.toNat) :
    ∃ last, Tried s conninfo (left + 1) w last (openPool s retry made (left + 1) w).1
      (openPool s retry made (left + 1) w).2 := by
  induction left generalizing made w with
  | zero => exact ⟨0, openPool_stops attempts number usable sum fun _ _ _ => rfl⟩
  | succ left ih =>
    by_cases again : ∃ fault, (tryOutcome w.surroundings).1 = some fault ∧
        fault.isOperational = true
    · obtain ⟨fault, failed, operational⟩ := again
      obtain ⟨pause, short, next⟩ :=
        openPool_goes_on attempts number usable sum failed operational
      rw [next]
      obtain ⟨last, tried⟩ := ih (made + 1) { (openPoolOnce s w).2 with
        events := (openPoolOnce s w).2.events ++ [.sleep pause] } (by omega)
      exact ⟨last + 1, .cons failed operational short usable tried⟩
    · refine ⟨0, openPool_stops attempts number usable sum fun fault failed operational => ?_⟩
      exact absurd ⟨fault, failed, operational⟩ again

end

/-! ### Sources -/

section

omit [Surroundings σ]

/-- The settings of a source, if it has them. -/
def settingsOf (source : Option (List (String × Value))) : Option DatabaseSettings :=
  match source.getD [] with
  | [] => none
  | fields =>
    match DatabaseSettings.check fields with
    | .valid settings => some settings
    | .flawed _ => none

/-- The settings of a valid source, and the connection string that they make. -/
def usable? (source : Option (List (String × Value))) : Option (DatabaseSettings × String) :=
  (settingsOf source).bind fun settings => settings.conninfo.toOption.map (settings, ·)

theorem readSource_apply (source : Option (List (String × Value))) (w : World σ) :
    ∃ journal, readSource source w = (.ok (settingsOf source), { w with journal := journal }) := by
  rw [settingsOf]
  cases given : source.getD [] with
  | nil =>
    simp only [readSource, given]
    exact ⟨_, rfl⟩
  | cons field fields =>
    cases checked : DatabaseSettings.check (field :: fields) with
    | valid settings =>
      simp only [readSource, given, checked]
      exact ⟨w.journal, rfl⟩
    | flawed issues =>
      simp only [readSource, given, checked]
      exact ⟨_, rfl⟩

/-- A fault after which nothing is tried again, though it is an error. -/
def IsPermanent (fault : Fault) : Prop :=
  fault.isOperational = false ∧ fault.isError = true

private theorem texts_permanent {ps : List (String × ConnectionString.Setting)} {fault : Fault}
    (failed : ConnectionString.texts ps = .error fault) : IsPermanent fault := by
  induction ps with
  | nil => cases failed
  | cons p ps ih =>
    rcases p with ⟨name, text | raw⟩
    · rw [ConnectionString.texts] at failed
      cases rest : ConnectionString.texts ps with
      | ok texts =>
        rw [rest] at failed
        cases failed
      | error other =>
        rw [rest] at failed
        cases failed
        exact ih rest
    · cases failed
      rw [ConnectionString.undecodable]
      split
      · exact ⟨rfl, rfl⟩
      · split <;> exact ⟨rfl, rfl⟩

/-- What keeps settings from making a connection string is no fault of the connection. -/
theorem conninfo_permanent {s : DatabaseSettings} {fault : Fault}
    (failed : s.conninfo = .error fault) : IsPermanent fault := by
  rw [DatabaseSettings.conninfo, ConnectionString.compose] at failed
  generalize DatabaseSettings.credential "user" s.user
    ++ DatabaseSettings.credential "password" s.password = given at failed
  simp only [pure_bind] at failed
  split at failed
  -- The address itself is refused, or what is written out of it and the credentials.
  · split at failed <;> cases failed
    exact ⟨rfl, rfl⟩
  split at failed
  · split at failed <;> cases failed
    exact ⟨rfl, rfl⟩
  cases read : ConnectionString.read s.url with
  | error refusal => rw [read] at failed; cases failed; exact ⟨rfl, rfl⟩
  | ok ps =>
    rw [read] at failed
    dsimp only at failed
    cases texts : ConnectionString.texts ps.toList with
    | error other =>
      rw [texts] at failed
      cases failed
      exact texts_permanent texts
    | ok pairs =>
      rw [texts] at failed
      dsimp only [bind, Except.bind] at failed
      split at failed <;> cases failed
      exact ⟨rfl, rfl⟩

/-- A manager as the opening of its pool leaves it. -/
def ofOpening (s : DatabaseSettings) : Except Fault Pool.Id → Manager
  | .ok pool => .enabled pool s
  | .error _ => .disabled

end

/-- Making a manager is opening its pool, with entries of the journal around it. -/
theorem make_of_settings {source : Option (List (String × Value))} {retry : Retry}
    {s : DatabaseSettings} (found : settingsOf source = some s) (w : World σ)
    (errors : ∀ journal fault, (openPool s retry 0 (max 1 retry.limit)
      { w with journal := journal }).1 = .error fault → fault.isError = true) :
    ∃ before after, make source retry w =
      (.ok (ofOpening s (openPool s retry 0 (max 1 retry.limit) { w with journal := before }).1),
        { (openPool s retry 0 (max 1 retry.limit) { w with journal := before }).2 with
          journal := after }) := by
  obtain ⟨journal, read⟩ := readSource_apply source w
  rw [found] at read
  have logged (entry : LogEntry) (w₁ : World σ) :
      Action.log entry w₁ = (.ok (), { w₁ with journal := w₁.journal ++ [entry] }) := rfl
  rw [make, Action.bind_of_ok read]
  dsimp only
  rw [Action.bind_of_ok (logged _ _), Action.bind_of_ok (logged _ _),
    Action.bind_of_ok (logged _ _), Action.bind_apply, Action.attempt_apply]
  dsimp only
  generalize journal ++ _ ++ _ ++ _ = before
  refine ⟨before, ?_⟩
  rcases ran : openPool s retry 0 (max 1 retry.limit) { w with journal := before }
    with ⟨fault | pool, w₁⟩
  · have error := errors before fault (by rw [ran])
    simp only [error]
    exact ⟨_, rfl⟩
  · exact ⟨_, rfl⟩

/-- Without a connection string no pool is made. -/
theorem openPool_refused {s : DatabaseSettings} {fault : Fault}
    (refused : s.conninfo = .error fault) (retry : Retry) (made left : Nat) (w : World σ) :
    openPool s retry made left w = (.error fault, w) := by
  have once : openPoolOnce s w = (.error fault, w) := by
    have checked : Action.ofExcept s.conninfo w = (.error fault, w) := by
      rw [refused]
      rfl
    rw [openPoolOnce, Action.bind_of_error checked]
  cases left with
  | zero => rw [openPool, once]
  | succ left =>
    rw [openPool, Action.bind_apply, Action.attempt_apply, once]
    simp only [(conninfo_permanent refused).1]
    rfl

section

variable {s : DatabaseSettings} {conninfo : String} {allowed last : Nat} {w w' : World σ}
  {result : Except Fault Pool.Id}

theorem Tried.escaped (tried : Tried s conninfo allowed w last result w') {fault : Fault}
    (failed : result = .error fault) : outcome w.surroundings last = some fault := by
  have ended := tried.result
  rw [failed] at ended
  cases ran : outcome w.surroundings last with
  | none => rw [ran] at ended; cases ended
  | some other => rw [ran] at ended; cases ended; rfl

/-- Tries leave an enabled manager if one of the allowed ones succeeds and all before it end in
operational faults. -/
theorem Tried.isEnabled_iff (tried : Tried s conninfo allowed w last result w') :
    (ofOpening s result).isEnabled = true ↔ ∃ k < allowed, outcome w.surroundings k = none ∧
      ∀ j < k, ∃ fault, outcome w.surroundings j = some fault ∧ fault.isOperational = true := by
  constructor
  · intro enabled
    refine ⟨last, tried.within, ?_, tried.again⟩
    have ended := tried.result
    cases ran : outcome w.surroundings last with
    | none => rfl
    | some fault =>
      rw [ran] at ended
      rw [ended] at enabled
      cases enabled
  · rintro ⟨k, within, succeeded, before⟩
    have same : k = last := by
      rcases Nat.lt_trichotomy k last with earlier | same | later
      · obtain ⟨fault, failed, -⟩ := tried.again k earlier
        rw [succeeded] at failed
        cases failed
      · exact same
      · obtain ⟨fault, failed, operational⟩ := before last later
        have spent := tried.stops fault failed operational
        omega
    have ended := tried.result
    rw [← same, succeeded] at ended
    rw [ended]
    rfl

/-- What is logged around tries is no matter to them. -/
theorem Tried.of_journal {before : List LogEntry}
    (tried : Tried s conninfo allowed { w with journal := before } last result w')
    (after : List LogEntry) :
    Tried s conninfo allowed w last result { w' with journal := after } :=
  ⟨tried.within, tried.again, tried.stops, tried.result, tried.events, tried.pools⟩

end

/-- A manager is made of every source. It is enabled if the source is valid and a try succeeds
before one fails for good and before the attempts are spent; then it holds the pool of that try,
which is open. -/
theorem make_opens (source : Option (List (String × Value))) (retry : Retry) {n : Int}
    (attempts : retry.attempts = .int n)
    (number : (∃ f, retry.backoff = .float f) ∨ ∃ i, retry.backoff = .int i) (w : World σ)
    (errors : ∀ k, ∀ fault ∈ outcome w.surroundings k, fault.isError = true) :
    ∃ m w', make source retry w = (.ok m, w') ∧
      (m.isEnabled = true ↔ (usable? source).isSome = true ∧
        ∃ k < max 1 n.toNat, outcome w.surroundings k = none ∧
          ∀ j < k, ∃ fault, outcome w.surroundings j = some fault ∧ fault.isOperational = true) ∧
      match usable? source with
      | none => w'.events = w.events ∧ w'.pools = w.pools
      | some (s, conninfo) => ∃ last result,
          Tried s conninfo (max 1 n.toNat) w last result w' ∧ m = ofOpening s result := by
  have limit : retry.limit = n.toNat := by rw [Retry.limit, attempts]
  cases found : settingsOf source with
  | none =>
    have unusable : usable? source = none := by rw [usable?, found]; rfl
    obtain ⟨journal, read⟩ := readSource_apply source w
    rw [found] at read
    refine ⟨.disabled, { w with journal := journal }, ?_, ?_, ?_⟩
    · rw [make, Action.bind_of_ok read]
      rfl
    · simp [unusable, isEnabled]
    · rw [unusable]
      exact ⟨rfl, rfl⟩
  | some s =>
    cases composed : s.conninfo with
    | error fault =>
      have unusable : usable? source = none := by
        rw [usable?, found, Option.bind_some, composed]
        rfl
      have refused (journal : List LogEntry) := openPool_refused composed retry 0
        (max 1 retry.limit) { w with journal := journal }
      obtain ⟨before, after, made⟩ := make_of_settings found w fun journal other failed => by
        rw [refused journal] at failed
        cases failed
        exact (conninfo_permanent composed).2
      rw [refused before] at made
      refine ⟨_, _, made, ?_, ?_⟩
      · simp [unusable, isEnabled, ofOpening]
      · rw [unusable]
        exact ⟨rfl, rfl⟩
    | ok conninfo =>
      have valid : usable? source = some (s, conninfo) := by
        rw [usable?, found, Option.bind_some, composed]
        rfl
      have tries (journal : List LogEntry) :=
        openPool_tried attempts number composed (max 1 n.toNat - 1) 0
          { w with journal := journal } (by omega)
      have enough : max 1 n.toNat - 1 + 1 = max 1 n.toNat := by omega
      rw [enough] at tries
      have sound (journal : List LogEntry) (fault : Fault) (failed : (openPool s retry 0
          (max 1 n.toNat) { w with journal := journal }).1 = .error fault) :
          fault.isError = true := by
        obtain ⟨last, tried⟩ := tries journal
        exact errors last fault (tried.escaped failed)
      obtain ⟨before, after, made⟩ := make_of_settings found w (limit ▸ sound)
      rw [limit] at made
      obtain ⟨last, tried⟩ := tries before
      have opened := tried.of_journal after
      refine ⟨_, _, made, ?_, ?_⟩
      · rw [opened.isEnabled_iff, valid]
        simp
      · rw [valid]
        exact ⟨last, _, opened, rfl⟩

/-- Surroundings in which the first opening of a pool fails. -/
def refusingOnce : Schedule :=
  { rules := [{ kind := .openPool, fault := .driver .operational "refused" }],
    now := { clock := 0 } }

/-- With two attempts one refusal is overcome. -/
theorem make_opens_second :
    ∃ m w', make (some [("url", .text "postgresql://h/db")])
        { attempts := .int 2, backoff := .float 1.0 }
        ({ surroundings := refusingOnce } : World Schedule) = (.ok m, w') ∧
      m.isEnabled = true := by
  have settled (k : Nat) : outcome refusingOnce (k + 1) = none := by
    induction k with
    | zero => rfl
    | succ k ih => exact ih
  have errors : ∀ k, ∀ fault ∈ outcome refusingOnce k, fault.isError = true := by
    rintro (_ | k) fault escaped
    · cases escaped
      rfl
    · rw [settled] at escaped
      cases escaped
  obtain ⟨m, w', made, enabled, -⟩ := make_opens (some [("url", .text "postgresql://h/db")])
    { attempts := .int 2, backoff := .float 1.0 } rfl (.inl ⟨1.0, rfl⟩)
    ({ surroundings := refusingOnce } : World Schedule) errors
  refine ⟨m, w', made, enabled.mpr ⟨by decide +kernel, 1, by decide, rfl, ?_⟩⟩
  intro j first
  obtain rfl : j = 0 := by omega
  exact ⟨_, rfl, rfl⟩

end Manager

end BucketStore

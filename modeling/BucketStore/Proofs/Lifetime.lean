import BucketStore.Proofs.Acceptance

/-!
Lifetimes of zero. Of all the texts that are read as zero one stands for no limit, the digit alone:
a source that has it is accepted, and every pool that is made for it is unlimited. Whether a text
stands for no limit is found out before it is read, so that all other texts of zero are no longer
than nothing, and a source that has one of them is refused.
-/

namespace BucketStore

open Float.Model (UnpackedFloat)

private theorem beq_iff_unpack {a b : Float} :
    (a == b) = true ↔ a.toModel.unpack.compare b.toModel.unpack = some .eq := by
  change (UnpackedFloat.compare _ _ == some Ordering.eq) = true ↔ _
  rw [beq_iff_eq]

/-- What equals zero is a zero, of either sign. -/
theorem unpack_of_beq_zero {a : Float} (zero : (a == 0) = true) :
    ∃ sign, a.toModel.unpack = .zero sign := by
  have plain : (0 : Float).toModel.unpack = .zero .positive := rfl
  rw [beq_iff_unpack, plain] at zero
  cases unpacked : a.toModel.unpack with
  | notANumber => rw [unpacked] at zero; cases zero
  | zero sign => exact ⟨sign, rfl⟩
  | infinity sign => rw [unpacked] at zero; cases sign <;> cases zero
  | finite sign m e h => rw [unpacked] at zero; cases sign <;> cases zero

private theorem not_pos_of_beq_zero {a : Float} (zero : (a == 0) = true) : ¬ 0 < a := by
  obtain ⟨sign, unpacked⟩ := unpack_of_beq_zero zero
  have plain : (0 : Float).toModel.unpack = .zero .positive := rfl
  rw [lt_iff_unpack, unpacked, plain]
  exact nofun

namespace DatabaseSettings

/-- A text that is read as a number equal to zero. -/
def ReadsAsZero (text : String) : Prop :=
  ∃ f, Rule.float (.text text) = .ok f ∧ (f == 0) = true

/-- A number that is not above zero is refused as a lifetime, unless its text is the digit. -/
theorem lifetimeRule_of_zero {text : String} (zero : ReadsAsZero text) :
    lifetimeRule (.text text) = if text = "0" then .ok none else .error (.notAbove 0) := by
  obtain ⟨f, read, isZero⟩ := zero
  have filled : text.isEmpty = false := by
    refine Bool.eq_false_iff.mpr fun empty => ?_
    rw [String.isEmpty_iff] at empty
    subst empty
    cases read
  have small : ¬ f > Float.ofInt 0 := not_pos_of_beq_zero isZero
  have refused : Rule.optional (Rule.floatAbove 0) (.text text) = .error (.notAbove 0) := by
    change (Rule.floatAbove 0 (.text text)).map some = _
    rw [Rule.floatAbove, read]
    exact congrArg (Except.map some) (if_neg small)
  simp only [lifetimeRule, meansUnlimited, filled, Bool.or_false, beq_iff_eq, refused]

/-- The entries of a source that say nothing about the lifetime. -/
def withoutLifetime (source : List (String × Value)) : List (String × Value) :=
  source.filter fun entry =>
    entry.1 ≠ maxLifetimeField.key ∧ entry.1 ≠ maxLifetimeField.alternative

theorem lookup_withoutLifetime (source : List (String × Value)) (name : String) :
    Value.lookup (withoutLifetime source) name
      = if name ≠ maxLifetimeField.key ∧ name ≠ maxLifetimeField.alternative then
          Value.lookup source name
        else none := by
  have chosen := Value.lookup_filter
    (fun name => name ≠ maxLifetimeField.key ∧ name ≠ maxLifetimeField.alternative) source name
  simp only [decide_eq_true_iff] at chosen
  exact chosen

/-- A field of another name is checked as if the lifetime were not given. -/
theorem check_withoutLifetime {α : Type} {field : Field α}
    (key : field.key ≠ maxLifetimeField.key ∧ field.key ≠ maxLifetimeField.alternative)
    (alternative : field.alternative ≠ maxLifetimeField.key ∧
      field.alternative ≠ maxLifetimeField.alternative) (source : List (String × Value)) :
    field.check (withoutLifetime source) = field.check source := by
  apply Field.check_congr
  · rw [lookup_withoutLifetime, if_pos key]
  · rw [lookup_withoutLifetime, if_pos alternative]

section

variable {source : List (String × Value)} {s : DatabaseSettings}
  (valid : check (withoutLifetime source) = .valid s)
include valid

/-- A lifetime that is not given is unlimited. -/
theorem maxLifetime_of_withoutLifetime : s.maxLifetime = none := by
  obtain ⟨-, -, -, -, -, lifetimeChecked, -⟩ := check_fields valid
  have absent : maxLifetimeField.value? (withoutLifetime source) = none := by
    simp only [Field.value?, lookup_withoutLifetime]
    rfl
  rcases Field.check_eq_valid lifetimeChecked with ⟨v, given, -⟩ | ⟨-, default⟩
  · rw [absent] at given
    cases given
  · exact (Option.some.inj default).symm

/-- Where all but the lifetime is valid, the check is that of the lifetime. -/
theorem check_of_withoutLifetime :
    check source = (maxLifetimeField.check source).map fun lifetime =>
      { s with maxLifetime := lifetime } := by
  obtain ⟨urlChecked, userChecked, passwordChecked, sizeChecked, timeoutChecked, -, queryChecked⟩ :=
    check_fields valid
  rw [check_withoutLifetime (by decide) (by decide)] at urlChecked userChecked passwordChecked
  rw [check_withoutLifetime (by decide) (by decide)] at sizeChecked timeoutChecked queryChecked
  rw [check, urlChecked, userChecked, passwordChecked, sizeChecked, timeoutChecked, queryChecked]
  cases maxLifetimeField.check source <;> rfl

end

end DatabaseSettings

/-! ### Pools -/

/-- The lifetime of the pool that an event makes. -/
def Event.lifetime? : Event → Option Float
  | .newPool _ _ _ lifetime => some lifetime
  | _ => none

/-- Every pool that was made in between has one lifetime. -/
def Builds {σ : Type} (lifetime : Float) (w w' : World σ) : Prop :=
  ∃ events, w'.events = w.events ++ events ∧ ∀ e ∈ events, ∀ other ∈ e.lifetime?, other = lifetime

namespace Builds

variable {σ : Type} {lifetime : Float}

private theorem of_events {w w' : World σ} (same : w'.events = w.events) : Builds lifetime w w' :=
  ⟨[], by rw [same, List.append_nil], nofun⟩

instance : IsPreorder (World σ) (Builds lifetime) where
  refl _ := of_events rfl
  trans := by
    rintro w w₁ w' ⟨first, before, sized⟩ ⟨last, after, sized'⟩
    refine ⟨first ++ last, by rw [after, before, List.append_assoc], fun e member => ?_⟩
    exact (List.mem_append.mp member).elim (sized e) (sized' e)

theorem log (entry : LogEntry) :
    Action.Within (Builds lifetime) (Action.log entry : Action σ Unit) :=
  fun _ => of_events rfl

theorem sleep (pause : Float) :
    Action.Within (Builds lifetime) (Action.record (.sleep pause) : Action σ Unit) :=
  fun _ => ⟨[.sleep pause], rfl, by simp [Event.lifetime?]⟩

end Builds

namespace Manager

open DatabaseSettings (ReadsAsZero withoutLifetime maxLifetimeField check)

variable {σ : Type} [Surroundings σ] {s : DatabaseSettings} {conninfo : String}

private theorem openPoolOnce_builds (s : DatabaseSettings) :
    Action.Within (Builds (s.maxLifetime.getD Pool.unlimited))
      (openPoolOnce s : Action σ Pool.Id) := by
  intro w
  cases usable : s.conninfo with
  | error fault =>
    have failed : Action.ofExcept s.conninfo w = (.error fault, w) := by
      rw [usable]
      rfl
    rw [openPoolOnce, Action.bind_of_error failed]
    exact .of_events rfl
  | ok conninfo =>
    rw [openPoolOnce_apply usable]
    refine ⟨_, rfl, ?_⟩
    cases (Pool.tryOutcome w.surroundings).1 <;> simp [Pool.tryEvents, Event.lifetime?]

private theorem openPool_builds (s : DatabaseSettings) (retry : Retry) (made left : Nat) :
    Action.Within (Builds (s.maxLifetime.getD Pool.unlimited))
      (openPool s retry made left : Action σ Pool.Id) := by
  induction left generalizing made with
  | zero => exact openPoolOnce_builds s
  | succ left ih =>
    rw [openPool]
    refine .bind (openPoolOnce_builds s).attempt fun result => ?_
    cases result with
    | ok pool => exact .pure pool
    | error fault =>
      dsimp only
      split
      · refine .bind (.ofExcept _) fun pause => .bind (.ofExcept _) fun spent => ?_
        have again := Action.Within.bind (Builds.sleep pause) fun _ => ih (made + 1)
        split
        · exact .bind (.throw _) fun _ => again
        · exact again
      · exact .throw _

/-- A pool that opens at the first try is not tried again. -/
theorem openPool_at_once (usable : s.conninfo = .ok conninfo) {w : World σ}
    (opened : (Pool.tryOutcome w.surroundings).1 = none) (retry : Retry) (made left : Nat) :
    ∃ w', openPool s retry made left w = (.ok w.pools.length, w') ∧
      w'.events = w.events ++ Pool.tryEvents s conninfo true := by
  have once := openPoolOnce_apply usable w
  rw [opened] at once
  refine ⟨(openPoolOnce s w).2, ?_, by rw [once]; rfl⟩
  cases left with
  | zero => rw [openPool, once]
  | succ left =>
    rw [openPool, Action.bind_apply, Action.attempt_apply, once]
    rfl

omit [Surroundings σ] in
/-- A source that has settings is read without a word. -/
theorem readSource_valid {source : List (String × Value)} (checked : check source = .valid s)
    (w : World σ) : readSource (some source) w = (.ok (some s), w) := by
  cases source with
  | nil => cases checked
  | cons entry rest =>
    simp only [readSource, Option.getD_some, checked]
    rfl

omit [Surroundings σ] in
private theorem readSource_flawed {source : List (String × Value)} {issues : List Issue}
    (checked : check source = .flawed issues) (w : World σ) :
    ∃ journal, readSource (some source) w = (.ok none, { w with journal := journal }) := by
  cases source with
  | nil => exact ⟨_, rfl⟩
  | cons entry rest =>
    simp only [readSource, Option.getD_some, checked]
    exact ⟨_, rfl⟩

/-- All pools that are made for a source have the lifetime of its settings. -/
theorem make_builds {source : List (String × Value)} (checked : check source = .valid s)
    (retry : Retry) (w : World σ) :
    Builds (s.maxLifetime.getD Pool.unlimited) w (make (some source) retry w).2 := by
  rw [make, Action.bind_of_ok (readSource_valid checked w)]
  refine Action.Within.bind (.log _) (fun _ => .bind (.log _) fun _ => .bind (.log _) fun _ =>
    .bind (openPool_builds s retry 0 _).attempt fun result => ?_) w
  cases result with
  | ok pool => exact .bind (.log _) fun _ => .pure _
  | error fault =>
    dsimp only
    split
    · exact .bind (.log _) fun _ => .pure _
    · exact .throw _

/-- Storage is enabled if the pool opens at the first try. -/
theorem make_at_once {source : List (String × Value)} (checked : check source = .valid s)
    (usable : s.conninfo = .ok conninfo) (retry : Retry) {w : World σ}
    (opened : (Pool.tryOutcome w.surroundings).1 = none) :
    ∃ w', make (some source) retry w = (.ok (.enabled w.pools.length s), w') ∧
      w'.events = w.events ++ Pool.tryEvents s conninfo true := by
  have found : settingsOf (some source) = some s := by
    cases source with
    | nil => cases checked
    | cons entry rest => simp only [settingsOf, Option.getD_some, checked]
  have once (journal : List LogEntry) :=
    openPool_at_once usable (w := { w with journal := journal }) opened retry 0 (max 1 retry.limit)
  obtain ⟨before, after, made⟩ := make_of_settings found w fun journal fault failed => by
    obtain ⟨_, ran, -⟩ := once journal
    rw [ran] at failed
    cases failed
  obtain ⟨_, ran, events⟩ := once before
  rw [ran] at made
  exact ⟨_, made, events⟩

/-- A source is valid but for a lifetime that is read as zero. If the lifetime is the digit, the
source has settings without a limit, and its manager is the one that is made without a lifetime: all
its pools are unlimited, and storage is enabled if the first of them opens. In any other spelling
the lifetime is refused as not above zero, and storage is disabled. -/
theorem make_unlimited {source : List (String × Value)} {text : String}
    (given : maxLifetimeField.value? source = some (.text text)) (zero : ReadsAsZero text)
    (valid : check (withoutLifetime source) = .valid s) (retry : Retry) (w : World σ) :
    (text = "0" →
      s.maxLifetime = none ∧ readSource (some source) w = (.ok (some s), w) ∧
      make (some source) retry w = make (some (withoutLifetime source)) retry w ∧
      Builds Pool.unlimited w (make (some source) retry w).2 ∧
      ∀ conninfo, s.conninfo = .ok conninfo → (Pool.tryOutcome w.surroundings).1 = none →
        ∃ w', make (some source) retry w = (.ok (.enabled w.pools.length s), w') ∧
          w'.events = w.events ++
            [.newPool conninfo s.poolSize s.timeout Pool.unlimited, .openPool s.timeout]) ∧
    (text ≠ "0" →
      (∃ key, check source = .flawed [(Flaw.notAbove 0).issue key]) ∧
      ∃ journal, readSource (some source) w = (.ok none, { w with journal := journal }) ∧
        make (some source) retry w = (.ok .disabled, { w with journal := journal })) := by
  have ruled := DatabaseSettings.lifetimeRule_of_zero zero
  have checked := DatabaseSettings.check_of_withoutLifetime valid
  constructor
  · intro digit
    rw [if_pos digit] at ruled
    have found : maxLifetimeField.check source = .valid none := by
      rw [Field.check_eq_valid_iff, given]
      exact ruled
    have unlimited := DatabaseSettings.maxLifetime_of_withoutLifetime valid
    have same : { s with maxLifetime := none } = s := by rw [← unlimited]
    rw [found, Checked.map, same] at checked
    have built := make_builds checked retry w
    rw [unlimited] at built
    refine ⟨unlimited, readSource_valid checked w, ?_, built, ?_⟩
    · rw [make, make, Action.bind_of_ok (readSource_valid checked w),
        Action.bind_of_ok (readSource_valid valid w)]
    · intro conninfo usable opened
      have made := make_at_once checked usable retry opened
      rwa [Pool.tryEvents, unlimited] at made
  · intro other
    rw [if_neg other] at ruled
    obtain ⟨key, flawed⟩ := Field.check_eq_flawed given ruled
    rw [flawed] at checked
    obtain ⟨journal, read⟩ := readSource_flawed checked w
    refine ⟨⟨key, checked⟩, journal, read, ?_⟩
    rw [make, Action.bind_of_ok read]
    rfl

/-- A source with a lifetime in some spelling. -/
def spelledSource (lifetime : String) : List (String × Value) :=
  [("jdbc.url", .text "postgresql://h/db"), ("max.lifetime", .text lifetime)]

/-- The settings of such a source, if its lifetime has no limit. -/
def unlimitedSettings : DatabaseSettings :=
  ⟨"postgresql://h/db", none, none, 3, 15.0, none, "SELECT 1"⟩

/-- Surroundings in which nothing fails. -/
def answering : Schedule :=
  { now := { clock := 0 } }

/-- The digit enables storage; with a sign, more digits, an exponent and blanks it is disabled. -/
theorem make_unlimited_digit :
    (∃ w', make (some (spelledSource "0")) {} ({ surroundings := answering } : World Schedule)
        = (.ok (.enabled 0 unlimitedSettings), w') ∧
      w'.events = [.newPool "postgresql://h/db" 3 15.0 Pool.unlimited, .openPool 15.0]) ∧
    ∃ w', make (some (spelledSource " -00.0e3\n")) {}
        ({ surroundings := answering } : World Schedule) = (.ok .disabled, w') := by
  have digit : ReadsAsZero "0" := ⟨0.0, rfl, rfl⟩
  have long : ReadsAsZero " -00.0e3\n" := ⟨-0.0, rfl, rfl⟩
  have valid (text : String) :
      check (withoutLifetime (spelledSource text)) = .valid unlimitedSettings := rfl
  obtain ⟨-, -, -, -, opens⟩ :=
    (make_unlimited rfl digit (valid _) {} { surroundings := answering }).1 rfl
  obtain ⟨-, _, -, made⟩ :=
    (make_unlimited rfl long (valid _) {} { surroundings := answering }).2 (by decide)
  exact ⟨opens "postgresql://h/db" rfl rfl, _, made⟩

/-- A decimal zero is read as zero, and the source that has it has no settings. -/
theorem make_unlimited_decimal :
    ReadsAsZero "0.0" ∧
      check (withoutLifetime (spelledSource "0.0")) = .valid unlimitedSettings ∧
      ∃ w', readSource (some (spelledSource "0.0")) ({ surroundings := () } : World Unit)
        = (.ok none, w') :=
  ⟨⟨0.0, rfl, rfl⟩, rfl, _, rfl⟩

end Manager

end BucketStore

import BucketStore.Proofs.Acceptance
import BucketStore.Proofs.ExitStatus

/-!
Serenity. Where no fault strikes and the database answers queries itself, a program that finds its
database connects to it, a selection comes to its end with the newest points, and nothing is printed
meanwhile.
-/

namespace BucketStore

variable {σ α β : Type}

/-- States of the surroundings from which no fault strikes and no answer comes in the place of the
database's. -/
class Surroundings.Serene [Surroundings σ] (P : σ → Prop) : Prop where
  strike : ∀ (contact : Contact) {s : σ}, P s →
    (Surroundings.strike contact s).1 = none ∧ P (Surroundings.strike contact s).2
  tick : ∀ {s : σ}, P s → P (Surroundings.tick s).2
  answer : ∀ {s : σ}, P s → (Surroundings.answer s).1 = none ∧ P (Surroundings.answer s).2

/-- The surroundings are safe, and nothing was printed on the way there. -/
structure Still (P : σ → Prop) (w w' : World σ) : Prop where
  safe : P w'.surroundings
  output : w'.output = w.output

theorem Still.trans {P : σ → Prop} {w w₁ w₂ : World σ} (first : Still P w w₁)
    (last : Still P w₁ w₂) : Still P w w₂ :=
  ⟨last.safe, last.output.trans first.output⟩

namespace Action

/-- An action comes to its end, in safe surroundings and without printing. -/
def Ends (P : σ → Prop) (a : Action σ α) (w : World σ) : Prop :=
  ∃ x w', a w = (.ok x, w') ∧ Still P w w'

/-- An action comes to its end wherever the surroundings are safe. -/
def Passes (P : σ → Prop) (a : Action σ α) : Prop :=
  ∀ w, P w.surroundings → Ends P a w

namespace Passes

variable {P : σ → Prop}

theorem pure (x : α) : Passes P (Pure.pure x : Action σ α) :=
  fun w start => ⟨x, w, rfl, start, rfl⟩

theorem get : Passes P (MonadState.get : Action σ (World σ)) :=
  fun w start => ⟨w, w, rfl, start, rfl⟩

theorem update {f : World σ → World σ} (kept : ∀ w, (f w).surroundings = w.surroundings)
    (unprinted : ∀ w, (f w).output = w.output) : Passes P (Action.update f) := by
  intro w start
  refine ⟨(), f w, rfl, ?_, unprinted w⟩
  rw [kept]
  exact start

theorem record (e : Event) : Passes P (Action.record e : Action σ Unit) :=
  .update (fun _ => rfl) fun _ => rfl

theorem note (t : Touch) : Passes P (Action.note t : Action σ Unit) :=
  .update (fun _ => rfl) fun _ => rfl

theorem log (entry : LogEntry) : Passes P (Action.log entry : Action σ Unit) :=
  .update (fun _ => rfl) fun _ => rfl

theorem bind {a : Action σ α} {f : α → Action σ β} (first : Passes P a)
    (rest : ∀ x, Passes P (f x)) : Passes P (a >>= f) := by
  intro w start
  obtain ⟨x, w₁, ran, still⟩ := first w start
  obtain ⟨y, w₂, ended, still'⟩ := rest x w₁ still.safe
  exact ⟨y, w₂, (bind_of_ok ran).trans ended, still.trans still'⟩

theorem ensuring {a : Action σ α} {cleanup : Action σ Unit} (first : Passes P a)
    (last : Passes P cleanup) : Passes P (Action.ensuring a cleanup) := by
  intro w start
  obtain ⟨x, w₁, ran, still⟩ := first w start
  obtain ⟨_, w₂, ended, still'⟩ := last w₁ still.safe
  refine ⟨x, w₂, ?_, still.trans still'⟩
  simp [Action.ensuring, ran, ended]

/-- At a contact nothing strikes. -/
theorem strike [Surroundings σ] [Surroundings.Serene P] (contact : Contact)
    {f : Option Strike → Action σ β} (rest : Passes P (f none)) :
    Passes P (Action.ask (Surroundings.strike contact) >>= f) := by
  intro w start
  obtain ⟨unstruck, kept⟩ := Surroundings.Serene.strike contact start
  have asked := ask_apply (Surroundings.strike contact) w
  rw [unstruck] at asked
  obtain ⟨y, w', ended, still⟩ :=
    rest { w with surroundings := (Surroundings.strike contact w.surroundings).2 } kept
  exact ⟨y, w', (bind_of_ok asked).trans ended, still.safe, still.output⟩

end Passes

end Action

open BucketStore.Action (Ends Passes)

/-! ### Connections -/

namespace Connection

variable {P : σ → Prop}

/-- In safe surroundings a free statement is executed. -/
def Accepts [Surroundings σ] (P : σ → Prop) (sql : String) : Prop :=
  ∀ s, P s → Surroundings.refusal? s sql = none

theorem modify_passes (id : Nat) (f : Connection → Connection) :
    Passes P (modify id f : Action σ Unit) :=
  .update (fun _ => rfl) fun _ => rfl

theorem setAutocommit_passes (id : Nat) (on : Bool) :
    Passes P (setAutocommit id on : Action σ Unit) :=
  .bind (.record _) fun _ => modify_passes id _

variable [Surroundings σ]

theorem runFree_passes {sql : String} (accepted : Accepts P sql) (id : Nat) :
    Passes P (runFree id sql : Action σ Unit) := by
  have staged (w : World σ) : Passes P (if (!((get? id w).map (·.autocommit)).getD false) = true
      then stageChange id (.run sql) else pure ()) := by
    split
    · exact modify_passes id _
    · exact .pure ()
  intro w start
  rw [runFree, Action.Ends, Action.bind_of_ok (Action.get_apply w), accepted _ start]
  exact staged w w start

variable [Surroundings.Serene P]

theorem touch_passes (id : Nat) (contact : Contact) :
    Passes P (touch id contact : Action σ Unit) :=
  .strike contact <| .bind (modify_passes id _) fun _ =>
    .bind (.bind .get fun _ => .pure _) fun _ => .bind (.note _) fun _ => .pure ()

theorem enter_passes (id : Nat) (sql : String) (parameters : Option (List Int)) :
    Passes P (enter id sql parameters : Action σ Unit) :=
  .bind (.record _) fun _ => touch_passes id _

theorem tryOut_passes {query : String} (accepted : Accepts P query) (id : Nat) :
    Passes P (tryOut id query : Action σ Unit) :=
  .bind .get fun _ => .bind (setAutocommit_passes id true) fun _ =>
    .ensuring (.bind (enter_passes id query none) fun _ => runFree_passes accepted id)
      (setAutocommit_passes id _)

theorem commit_passes (id : Nat) : Passes P (commit id : Action σ Unit) :=
  .bind (.record _) fun _ => .bind (touch_passes id _) fun _ =>
    .bind (.update (fun _ => rfl) fun _ => rfl) fun _ => modify_passes id _

/-- A query is answered by the committed contents. -/
theorem select_ends (id : Nat) (g : Granularity) (since limit : Int) {w : World σ}
    (start : P w.surroundings) :
    ∃ w', select id g since limit w = (.ok ((w.database.points g since limit).map
      fun (timestamp, value) => .list [.int timestamp, .float value]), w') ∧ Still P w w' := by
  let sql := (Statement.selectPoints g).text
  obtain ⟨_, w₁, entered, still⟩ :=
    enter_passes (P := P) id sql (some [since, limit]) w start
  have kept := ((Stages.enter id sql (some [since, limit])).uses w).database
  rw [entered] at kept
  obtain ⟨unanswered, safe'⟩ := Surroundings.Serene.answer still.safe
  have asked := Action.ask_apply Surroundings.answer w₁
  rw [unanswered] at asked
  refine ⟨{ w₁ with surroundings := (Surroundings.answer w₁.surroundings).2 }, ?_, safe',
    still.output⟩
  rw [select_eq, Action.bind_of_ok entered, answerPoints, Action.bind_of_ok asked, ← kept]
  rfl

end Connection

/-! ### Pools -/

private theorem PoolState.refusal?_eq_none {p : PoolState} (opened : p.closed = false)
    (spare : p.out < p.size) : p.refusal? = none := by
  rw [refusal?, opened, if_neg Bool.false_ne_true, if_neg (Int.not_le.mpr spare)]

namespace Pool

variable {P : σ → Prop}

theorem modify_passes (id : Id) (f : PoolState → PoolState) :
    Passes P (modify id f : Action σ Unit) :=
  .update (fun _ => rfl) fun _ => rfl

variable [Surroundings σ] [Surroundings.Serene P]

theorem touch_passes (contact : Contact) : Passes P (touch contact : Action σ Unit) :=
  .strike contact (.pure ())

theorem close_passes (id : Id) : Passes P (close id : Action σ Unit) :=
  .bind (.record _) fun _ => .bind (.update (fun _ => rfl) fun _ => rfl) fun _ =>
    .bind (modify_passes id _) fun _ => touch_passes _

theorem provide_passes (id : Id) {p : PoolState} (accepted : Connection.Accepts P p.testQuery) :
    Passes P (provide id p : Action σ Nat) := by
  refine .bind .get fun w => .bind (.update (fun _ => rfl) fun _ => rfl) fun _ =>
    .bind .get fun _ => ?_
  have lent : Passes P (modify id PoolState.lend >>= fun _ => pure w.connections.length :
      Action σ Nat) :=
    .bind (modify_passes id _) fun _ => .pure _
  split
  · exact .bind (Connection.tryOut_passes accepted _) fun _ => lent
  · exact lent

/-- A pool has a connection to hand out: it is open, not all of its connections are out, and what
they are tried out by is executed. -/
def IsReady (P : σ → Prop) (id : Id) (w : World σ) : Prop :=
  ∃ p, get? id w = some p ∧ p.refusal? = none ∧ Connection.Accepts P p.testQuery

theorem take_ends {id : Id} {w : World σ} (ready : IsReady P id w) (timeout : Float)
    (start : P w.surroundings) : Ends P (take id timeout) w := by
  obtain ⟨p, found, unrefused, accepted⟩ := ready
  let asking := (Action.record (.take timeout) w).2
  obtain ⟨_, w₁, touched, still⟩ := touch_passes (P := P) .takeConnection asking start
  have same : get? id w₁ = some p := by
    have moved := congrArg Prod.snd (touched.symm.trans (touch_eq .takeConnection asking))
    obtain rfl : w₁ = _ := moved
    exact found
  have handed : handOut id asking = provide id p w₁ := by
    have ready' : ((get? id w₁).getD { size := 0, testQuery := "" }).refusal? = none := by
      rwa [same]
    rw [handOut_of_ready touched ready', same, Option.getD_some]
  obtain ⟨connection, w₂, provided, still'⟩ :=
    provide_passes (P := P) id accepted w₁ still.safe
  rw [provided] at handed
  have both := still.trans still'
  exact ⟨_, _, take_of_ok handed, both.safe, both.output⟩

theorem giveBack_passes (id : Id) (connection : Nat) :
    Passes P (giveBack id connection : Action σ Unit) :=
  .bind (.record _) fun _ => .bind (modify_passes id _) fun _ => Connection.touch_passes _ _

end Pool

/-! ### Managers -/

namespace Manager

variable {P : σ → Prop} [Surroundings σ] [Surroundings.Serene P] {pool : Pool.Id}
  {settings : DatabaseSettings} {w : World σ}

theorem acquire_ends (ready : Pool.IsReady P pool w) (settings : DatabaseSettings)
    (start : P w.surroundings) : Ends P (enabled pool settings).acquire w := by
  obtain ⟨id, w₁, taken, still⟩ := Pool.take_ends ready settings.timeout start
  exact ⟨id, w₁, acquire_of_ok taken, still⟩

theorem leave_passes (m : Manager) (id : Nat) :
    Passes P (m.leave id false : Action σ Unit) := by
  cases m with
  | disabled => exact .pure ()
  | enabled pool settings => exact .ensuring (.pure ()) (Pool.giveBack_passes pool id)

theorem close_passes (m : Manager) : Passes P (m.close : Action σ Unit) := by
  cases m with
  | disabled => exact .pure ()
  | enabled pool settings =>
    refine .bind .get fun w => ?_
    dsimp only
    split
    · exact .pure ()
    · exact .bind (Pool.modify_passes pool _) fun _ => .bind (Pool.close_passes pool) fun _ =>
        .log _

/-- A use that comes to its end, comes to it in its lease as well. -/
theorem withConnection_ends {m : Manager} {use : Nat → Action σ α} {id : Nat} {x : α}
    {w₁ w₂ : World σ} (acquired : m.acquire w = (.ok id, w₁)) (used : use id w₁ = (.ok x, w₂))
    (start : P w₂.surroundings) :
    ∃ w', m.withConnection use w = (.ok x, w') ∧ Still P w₂ w' := by
  obtain ⟨_, w₃, left, still⟩ := leave_passes m id w₂ start
  refine ⟨w₃, ?_, still⟩
  have unfaulted : (!(Except.ok x : Except Fault α).isOk) = false := rfl
  rw [withConnection_used acquired used, unfaulted, left]
  rfl

end Manager

section

variable {P : σ → Prop} [Surroundings σ] [Surroundings.Serene P] {pool : Pool.Id}
  {w : World σ}

/-- A batch has the outcome of its work. -/
theorem Batch.run_ends {work : Nat → Action σ α} {x : α} (ready : Pool.IsReady P pool w)
    (start : P w.surroundings)
    (worked : ∀ id (w₁ : World σ), P w₁.surroundings → w₁.database = w.database →
      ∃ w₂, work id w₁ = (.ok x, w₂) ∧ Still P w₁ w₂)
    (settings : DatabaseSettings) (operation : String) (attempted : Int) (policy : Policy)
    (details : List (String × Value)) :
    ∃ summary w', run (.enabled pool settings) operation attempted policy details work w
      = (.ok (summary, some x), w') ∧ Still P w w' := by
  let begun : World σ := { w with surroundings := (Surroundings.tick w.surroundings).2 }
  have calm : P begun.surroundings := Surroundings.Serene.tick start
  obtain ⟨id, w₁, acquired, still⟩ := Manager.acquire_ends (w := begun) ready settings calm
  have kept := (Manager.enabled pool settings).acquire_database begun
  rw [acquired] at kept
  obtain ⟨w₂, ran, still₂⟩ := worked id w₁ still.safe kept
  obtain ⟨_, w₃, committed, still₃⟩ := Connection.commit_passes (P := P) id w₂ still₂.safe
  have used : block work id w₁ = (.ok x, w₃) := by
    rw [block, Action.bind_of_ok ran, Action.bind_of_ok committed]
    rfl
  obtain ⟨w₄, leased, still₄⟩ := Manager.withConnection_ends acquired used still₃.safe
  have all := ((still.trans still₂).trans still₃).trans still₄
  rw [run_apply]
  dsimp only
  rw [leased]
  exact ⟨_, _, rfl, Surroundings.Serene.tick all.safe, all.output⟩

namespace Store

/-- What is read on a connection are the newest points of a table. -/
theorem selected_ends (id : Nat) (since limit : Int) (g : Granularity)
    (start : P w.surroundings) :
    ∃ w', (do
      Connection.cursor id
      let rows ← Connection.select id g since limit
      Action.ofExcept ((pointsOfRows rows).mapError Fault.problem) : Action σ (List Point)) w
        = (.ok ((w.database.points g since limit).map fun point => ⟨point.1, point.2⟩), w') ∧
      Still P w w' := by
  obtain ⟨_, w₁, opened, still⟩ := Connection.touch_passes (P := P) id .cursor w start
  have kept := ((Stages.cursor id).uses w).database
  rw [show Connection.cursor id w = (.ok (), w₁) from opened] at kept
  obtain ⟨w₂, selected, still'⟩ := Connection.select_ends id g since limit still.safe
  rw [kept] at selected
  refine ⟨w₂, ?_, still.trans still'⟩
  have cursor : Connection.cursor id w = (.ok (), w₁) := opened
  rw [Action.bind_of_ok cursor, Action.bind_of_ok selected, pointsOfRows_shown]
  rfl

/-- The newest points of a table are selected. -/
theorem selectPoints_ends (ready : Pool.IsReady P pool w) (settings : DatabaseSettings)
    (since limit : Int) (g : Granularity) (policy : Policy) (start : P w.surroundings) :
    ∃ w', selectPoints (.enabled pool settings) since limit g policy w
      = (.ok ((w.database.points g since limit).map fun point => ⟨point.1, point.2⟩), w') ∧
        Still P w w' := by
  dsimp only [selectPoints]
  split
  · rename_i nothing
    have none : limit ≤ 0 := by simpa [Manager.isEnabled] using nothing
    refine ⟨w, ?_, start, rfl⟩
    simp [Database.points, Int.toNat_of_nonpos none]
  · obtain ⟨summary, w', ran, still⟩ := Batch.run_ends ready start
      (fun id w₁ calm same => same ▸ selected_ends id since limit g calm) settings
      "select_reporting" 0 policy [("graph_type", Value.text g.title)]
    refine ⟨w', ?_, still⟩
    rw [Action.bind_of_ok ran]
    rfl

end Store

end

/-! ### Connecting -/

namespace Manager

variable {P : σ → Prop} [Surroundings σ] [Surroundings.Serene P] {s : DatabaseSettings}
  {conninfo : String} {w : World σ}

/-- The pool of settings is opened. -/
def Opens (s : DatabaseSettings) (P : σ → Prop) (a : Action σ Pool.Id) : Prop :=
  ∀ w, P w.surroundings → ∃ w', a w = (.ok w.pools.length, w') ∧ Still P w w' ∧
    w'.pools = w.pools ++ [{ Pool.fresh s with closed := false }]

theorem openPoolOnce_ends (composed : s.conninfo = .ok conninfo) :
    Opens s P (openPoolOnce s : Action σ Pool.Id) := by
  intro w start
  obtain ⟨unstruck, kept⟩ := Surroundings.Serene.strike .openPool start
  rcases struck : Surroundings.strike .openPool w.surroundings with ⟨strike, s₁⟩
  rw [struck] at unstruck kept
  obtain rfl : strike = none := unstruck
  have tried : Pool.tryOutcome w.surroundings = (none, s₁) := by rw [Pool.tryOutcome, struck]
  rw [openPoolOnce_apply composed, tried]
  exact ⟨_, rfl, ⟨kept, rfl⟩, rfl⟩

theorem openPool_ends (composed : s.conninfo = .ok conninfo) (retry : Retry) (made left : Nat) :
    Opens s P (openPool s retry made left : Action σ Pool.Id) := by
  intro w start
  obtain ⟨w', opened, rest⟩ := openPoolOnce_ends (P := P) composed w start
  refine ⟨w', ?_, rest⟩
  cases left with
  | zero => exact opened
  | succ left =>
    rw [openPool, Action.attempt_bind, opened]
    rfl

theorem make_ends {source : Option (List (String × Value))} (found : settingsOf source = some s)
    (composed : s.conninfo = .ok conninfo) (retry : Retry) (start : P w.surroundings) :
    ∃ w', make source retry w = (.ok (.enabled w.pools.length s), w') ∧ Still P w w' ∧
      w'.pools = w.pools ++ [{ Pool.fresh s with closed := false }] := by
  have opens (journal : List LogEntry) := openPool_ends (P := P) composed retry 0
    (max 1 retry.limit) { w with journal } start
  have faultless (journal : List LogEntry) (fault : Fault) (failed : (openPool s retry 0
      (max 1 retry.limit) { w with journal }).1 = .error fault) : fault.isError = true := by
    obtain ⟨w', opened, _⟩ := opens journal
    rw [opened] at failed
    cases failed
  obtain ⟨before, after, made⟩ := make_of_settings found w faultless
  obtain ⟨w', opened, still, pools⟩ := opens before
  rw [opened] at made
  exact ⟨_, made, ⟨still.safe, still.output⟩, pools⟩

end Manager

namespace CommandLine

/-- A host whose configuration leads to a database: it can be read, its log can be configured, it
has settings out of which a connection string is made, and in safe surroundings the database
executes what connections are tried out by. -/
structure Host.Reaches [Surroundings σ] (P : σ → Prop) (host : Host) (db : DatabaseSettings) :
    Prop where
  configured : ∃ settings log entries,
    Settings.read { environment := host.environment, file := host.environmentFile } = .ok settings ∧
      host.logging settings.logLevel settings.logJson = .ok log ∧
      Properties.load (host.file (Path.normal settings.propertiesFile)) = .ok entries ∧
      Manager.settingsOf (some (entries.map fun (key, value) => (key, .text value))) = some db
  composed : ∃ conninfo, db.conninfo = .ok conninfo
  accepted : Connection.Accepts P db.testQuery

variable {P : σ → Prop} [Surroundings σ] [Surroundings.Serene P] {host : Host}
  {db : DatabaseSettings} {w : World σ}

/-- Such a host connects, and the pool of its manager has a connection to hand out. -/
theorem Host.Reaches.connect (reaches : host.Reaches P db) (start : P w.surroundings) :
    ∃ settings pool w', host.connect w = (.ok (settings, .enabled pool db), w') ∧
      Still P w w' ∧ w'.database = w.database ∧ Pool.IsReady P pool w' := by
  obtain ⟨⟨settings, log, entries, read, logged, loaded, found⟩, ⟨conninfo, composed⟩, accepted⟩ :=
    reaches
  let configured : World σ :=
    (Action.record (.configureLogging settings.logLevel settings.logJson) w).2
  obtain ⟨w', made, still, pools⟩ := Manager.make_ends (P := P) (w := configured) found
    composed ⟨.int settings.connectAttempts, .float settings.connectBackoff⟩ start
  have properties : Manager.readProperties settings.propertiesFile
      (host.file (Path.normal settings.propertiesFile)) configured
        = (.ok entries, configured) := by
    rw [Manager.readProperties, loaded]
    rfl
  have ofSettings : Manager.ofSettings settings host.file configured
      = (.ok (.enabled configured.pools.length db), w') := by
    rw [Manager.ofSettings, Action.bind_of_ok properties, made]
  have connected : host.connect w
      = (.ok (settings, .enabled configured.pools.length db), w') := by
    have checked : Action.ofExcept (Settings.read
        { environment := host.environment, file := host.environmentFile }) w
          = (.ok settings, w) := by
      rw [read]
      rfl
    have recorded : Action.record (.configureLogging settings.logLevel settings.logJson) w
        = (.ok (), configured) := rfl
    have configures : Action.ofProblem (host.logging settings.logLevel settings.logJson) configured
        = (.ok log, configured) := by
      rw [logged]
      rfl
    rw [Host.connect, Action.bind_of_ok checked, Action.bind_of_ok recorded,
      Action.bind_of_ok configures, Action.bind_of_ok ofSettings]
    rfl
  have beside := host.connect_beside w
  rw [connected] at beside
  have sized := (DatabaseSettings.check_eq_valid (Manager.settingsOf_eq_some found)).1
  refine ⟨settings, _, w', connected, ⟨still.safe, still.output⟩, beside.database,
    { Pool.fresh db with closed := false }, ?_, ?_, accepted⟩
  · rw [Pool.get?, pools, List.getElem?_concat_length]
  · exact PoolState.refusal?_eq_none rfl sized.poolSize

end CommandLine

end BucketStore

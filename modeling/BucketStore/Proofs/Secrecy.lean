import BucketStore.Main
import BucketStore.Proofs.FailureReport
import BucketStore.Proofs.PasswordTwins

/-!
The password stays secret. Two sources that are equal except for their passwords make managers that
no client can tell apart, and programs that print, log and answer the same: a password shows in the
connection string of the pool and nowhere else.
-/

namespace BucketStore

/-! ### Managers and their clients -/

open BucketStore.Action (Indistinct Blind)

variable {σ α : Type}

/-- Managers that are both disabled, or that own the same pool with settings that are alike. -/
inductive Manager.Alike : Manager → Manager → Prop
  | disabled : Alike .disabled .disabled
  | enabled (pool : Pool.Id) {s s' : DatabaseSettings} (alike : s.Alike s') :
    Alike (.enabled pool s) (.enabled pool s')

namespace Manager

theorem readSource_alike {source source' : List (String × Value)}
    (alike : SourceAlike source source') :
    Indistinct (Option.Rel DatabaseSettings.Alike) (readSource (some source) : Action σ _)
      (readSource (some source')) := by
  cases alike with
  | nil => exact .bind (Action.Blind.log _) fun _ _ _ => .pure .none
  | cons entry rest =>
    have checks := DatabaseSettings.check_alike (.cons entry rest)
    simp only [readSource, Option.getD_some]
    generalize DatabaseSettings.check _ = checked at checks ⊢
    generalize DatabaseSettings.check _ = checked' at checks ⊢
    cases checks with
    | valid related => exact .pure (.some related)
    | flawed issues => exact .bind (Action.Blind.log _) fun _ _ _ => .pure .none

section

variable [Surroundings σ] {s s' : DatabaseSettings} {m m' : Manager}

theorem openPoolOnce_alike (alike : s.Alike s') :
    Indistinct Eq (openPoolOnce s : Action σ Pool.Id) (openPoolOnce s') := by
  have strings : Indistinct (fun _ _ => True) (Action.ofExcept s.conninfo : Action σ String)
      (Action.ofExcept s'.conninfo) :=
    fun _ _ same => ⟨DatabaseSettings.conninfo_agree alike, same⟩
  refine .bind strings fun conninfo conninfo' _ => ?_
  have created : Indistinct Eq (Pool.create conninfo s : Action σ Pool.Id)
      (Pool.create conninfo' s') := by
    cases alike with
    | same => exact Pool.create_indistinct conninfo conninfo' s
    | passwords s => exact Pool.create_indistinct conninfo conninfo' s
  have timeouts : s'.timeout = s.timeout := by cases alike <;> rfl
  refine .bind created fun pool pool' same => ?_
  subst same
  rw [timeouts]
  refine Blind.bind (.attempt (Pool.open_blind pool _)) fun result => ?_
  cases result with
  | ok opened => exact .pure pool
  | error fault => exact .bind (Pool.close_blind pool) fun _ => .throw fault

theorem openPool_alike (alike : s.Alike s') (retry : Retry) (made left : Nat) :
    Indistinct Eq (openPool s retry made left : Action σ Pool.Id)
      (openPool s' retry made left) := by
  induction left generalizing made with
  | zero => exact openPoolOnce_alike alike
  | succ left ih =>
    refine .bind (.attempt (openPoolOnce_alike alike)) fun result result' results => ?_
    obtain rfl := Result.matches_eq_iff.mp results
    cases result with
    | ok pool => exact .pure rfl
    | error fault =>
      dsimp only
      split
      · refine .bind (Blind.ofExcept _) fun pause _ same => same ▸
          .bind (Blind.ofExcept _) fun spent _ same => same ▸ ?_
        split
        · exact .bind (Blind.throw fault) fun _ _ _ => .bind (Blind.record rfl) fun _ _ _ => ih _
        · exact .bind (Blind.record rfl) fun _ _ _ => ih _
      · exact .throw fault

theorem make_alike {source source' : List (String × Value)} (alike : SourceAlike source source')
    (retry : Retry) :
    Indistinct Alike (make (some source) retry : Action σ Manager) (make (some source') retry) := by
  refine .bind (readSource_alike alike) fun read read' both => ?_
  cases both with
  | none => exact .pure .disabled
  | @some s s' settings =>
    have shown : s'.url = s.url ∧ s'.user = s.user ∧ s'.poolSize = s.poolSize := by
      cases settings <;> exact ⟨rfl, rfl, rfl⟩
    obtain ⟨url, user, poolSize⟩ := shown
    dsimp only
    rw [url, user, poolSize]
    refine .bind (Blind.log _) fun _ _ _ => .bind (Blind.log _) fun _ _ _ =>
      .bind (Blind.log _) fun _ _ _ =>
        .bind (.attempt (openPool_alike settings _ _ _)) fun result result' results => ?_
    obtain rfl := Result.matches_eq_iff.mp results
    cases result with
    | ok pool => exact .bind (Blind.log _) fun _ _ _ => .pure (.enabled pool settings)
    | error fault =>
      dsimp only
      split
      · exact .bind (Blind.log _) fun _ _ _ => .pure .disabled
      · exact .throw fault

end

end Manager

/-- Properties that are equal except for their passwords. -/
abbrev PropertiesAlike (entries entries' : Properties.Entries) : Prop :=
  SourceAlike (entries.map fun (key, value) => (key, .text value))
    (entries'.map fun (key, value) => (key, .text value))

/-- Files whose properties are equal except for their passwords, or that are unreadable for the same
reason. -/
def FileAlike (file file' : Properties.File) : Prop :=
  Result.Matches PropertiesAlike (Properties.load file) (Properties.load file')

namespace Manager

theorem readProperties_alike {file file' : Properties.File} (alike : FileAlike file file')
    (path : String) :
    Indistinct PropertiesAlike (readProperties path file : Action σ Properties.Entries)
      (readProperties path file') := by
  unfold FileAlike at alike
  dsimp only [readProperties]
  generalize Properties.load file = loaded at alike ⊢
  generalize Properties.load file' = loaded' at alike ⊢
  cases alike with
  | ok entries => exact .pure entries
  | error failure =>
    cases failure with
    | tooLong => exact .throw _
    | undecodable | malformed => exact .bind (Blind.log _) fun _ _ _ => .pure .nil

variable [Surroundings σ]

theorem ofSettings_alike {file file' : String → Properties.File}
    (alike : ∀ path, FileAlike (file path) (file' path)) (settings : Settings) :
    Indistinct Alike (ofSettings settings file : Action σ Manager) (ofSettings settings file') :=
  .bind (readProperties_alike (alike _) _) fun _ _ entries => make_alike entries _

end Manager

theorem Manager.acquire_alike [Surroundings σ] {m m' : Manager} (alike : m.Alike m') :
    (m'.acquire : Action σ Nat) = m.acquire := by
  cases alike with
  | disabled => rfl
  | enabled pool settings => cases settings <;> rfl

theorem Manager.leave_alike [Surroundings σ] {m m' : Manager} (alike : m.Alike m')
    (connection : Nat) (faulted : Bool) :
    (m'.leave connection faulted : Action σ Unit) = m.leave connection faulted := by
  cases alike <;> rfl

theorem Manager.close_alike [Surroundings σ] {m m' : Manager} (alike : m.Alike m') :
    (m'.close : Action σ Unit) = m.close := by
  cases alike <;> rfl

theorem Manager.isEnabled_alike {m m' : Manager} (alike : m.Alike m') :
    m'.isEnabled = m.isEnabled := by
  cases alike <;> rfl

namespace Store

variable [Surroundings σ] {m m' : Manager} (alike : m.Alike m')

include alike

theorem insertAverages_alike (entries : List (BucketKey × Averaged)) (g : Granularity)
    (policy : Policy) :
    (insertAverages m' entries g policy : Action σ _) = insertAverages m entries g policy := by
  cases alike with
  | disabled => rfl
  | enabled pool settings => cases settings <;> rfl

theorem selectPoints_alike (since limit : Int) (g : Granularity) (policy : Policy) :
    (selectPoints m' since limit g policy : Action σ _) = selectPoints m since limit g policy := by
  cases alike with
  | disabled => rfl
  | enabled pool settings => cases settings <;> rfl

theorem purge_alike (now : Option Moment) (policy : Policy) :
    (purge m' now policy : Action σ _) = purge m now policy := by
  cases alike with
  | disabled => rfl
  | enabled pool settings => cases settings <;> rfl

theorem executeSql_alike (sql : String) (policy : Policy) :
    (executeSql m' sql policy : Action σ _) = executeSql m sql policy := by
  cases alike with
  | disabled => rfl
  | enabled pool settings => cases settings <;> rfl

end Store

theorem Operation.perform_alike [Surroundings σ] {m m' : Manager} (alike : m.Alike m')
    (policy : Policy) (op : Operation) :
    (op.perform m' policy : Action σ Answer) = op.perform m policy := by
  cases op with
  | saveUsers users =>
    cases alike with
    | disabled => rfl
    | enabled pool settings => cases settings <;> rfl
  | insertAverages entries g => rw [perform, perform, Store.insertAverages_alike alike]
  | selectPoints since limit g => rw [perform, perform, Store.selectPoints_alike alike]
  | purge now => rw [perform, perform, Store.purge_alike alike]
  | executeSql sql => rw [perform, perform, Store.executeSql_alike alike]

namespace Client

/-- Clients that hold the same connections in worlds that look alike. -/
structure Alike (c c' : Client σ) : Prop where
  world : c.world.veiled = c'.world.veiled
  held : c'.held = c.held

variable [Surroundings σ] {m m' : Manager} {c c' : Client σ}

theorem reply_alike (managers : m.Alike m') (clients : c.Alike c') (move : Move) :
    c'.reply m' move = c.reply m move := by
  have answers {α : Type} {a : Action σ α} (blind : Action.Blind a) :
      (a c'.world).1 = (a c.world).1 :=
    (blind.run clients.world).1
  cases move with
  | close => rw [reply, reply, Manager.close_alike managers, answers m.close_blind]
  | isEnabled => rw [reply, reply, Manager.isEnabled_alike managers]
  | step step =>
    cases step with
    | operate op policy =>
      rw [reply, reply, op.perform_alike managers, answers (op.perform_blind m policy)]
    | enter => rw [reply, reply, Manager.acquire_alike managers, answers m.acquire_blind]
    | use connection use =>
      rw [reply, reply, clients.held, answers (use.perform_blind connection)]
    | leave connection faulted =>
      rw [reply, reply, clients.held, Manager.leave_alike managers,
        answers (m.leave_blind connection faulted)]

theorem move_alike (managers : m.Alike m') (clients : c.Alike c') (move : Move) :
    (c.move m move).Alike (c'.move m' move) := by
  obtain ⟨w, held⟩ := c
  obtain ⟨w', held'⟩ := c'
  obtain rfl : held = held' := clients.held.symm
  have worlds : w.veiled = w'.veiled := clients.world
  have after {α : Type} {a : Action σ α} (blind : Action.Blind a) :
      (⟨(a w).2, held⟩ : Client σ).Alike ⟨(a w').2, held⟩ :=
    ⟨(blind.run worlds).2, rfl⟩
  cases move with
  | close =>
    rw [Client.move, Client.move, Manager.close_alike managers]
    exact after m.close_blind
  | isEnabled => exact ⟨worlds, rfl⟩
  | step step =>
    cases step with
    | operate op policy =>
      rw [Client.move, Client.move, Client.step, Client.step, op.perform_alike managers]
      exact after (op.perform_blind m policy)
    | enter =>
      obtain ⟨results, worlds⟩ := m.acquire_blind.run worlds
      rw [Client.move, Client.move, Client.step, Client.step, Manager.acquire_alike managers]
      rcases ran : m.acquire w with ⟨result, w₁⟩
      rcases ran' : m.acquire w' with ⟨result', w₁'⟩
      rw [ran, ran'] at results worlds
      obtain rfl : result = result' := results.symm
      cases result with
      | ok connection => exact ⟨worlds, rfl⟩
      | error fault => exact ⟨worlds, rfl⟩
    | use connection use =>
      rw [Client.move, Client.move, Client.step, Client.step]
      split
      · exact after (use.perform_blind connection)
      · exact ⟨worlds, rfl⟩
    | leave connection faulted =>
      rw [Client.move, Client.move, Client.step, Client.step, Manager.leave_alike managers]
      split
      · exact ⟨((m.leave_blind connection faulted).run worlds).2, rfl⟩
      · exact ⟨worlds, rfl⟩

theorem play_alike (managers : m.Alike m') (clients : c.Alike c') (moves : List Move) :
    (play m c moves).Alike (play m' c' moves) := by
  induction moves generalizing c c' with
  | nil => exact clients
  | cons move rest ih => exact ih (move_alike managers clients move)

end Client

/-! ### Programs -/

namespace CommandLine

theorem Host.print_blind (host : Host) (text : String) :
    Blind (host.print text : Action σ Unit) := by
  refine .get (fun _ _ => rfl) fun w => ?_
  split
  · exact .update fun _ => rfl
  · exact .throw _

theorem Host.complain_blind (host : Host) (line : String) :
    Blind (host.complain line : Action σ Unit) := by
  refine .get (fun _ _ => rfl) fun w => ?_
  split
  · exact .update fun _ => rfl
  · exact .throw _

theorem printReport_blind (host : Host) (report : Except Problem String) :
    Blind (printReport host report : Action σ Unit) :=
  .bind (.ofExcept _) fun _ => host.print_blind _

theorem infoText_alike {m m' : Manager} (alike : m.Alike m') (settings : Settings) :
    infoText settings m' = infoText settings m := by
  cases alike with
  | disabled => rfl
  | enabled pool both => cases both <;> rfl

variable [Surroundings σ]

theorem executeStatement_blind (host : Host) (m : Manager) (sql : String) :
    Blind (executeStatement host m sql : Action σ (Option BatchResult)) := by
  refine .bind (.attempt (Store.executeSql_blind m sql _)) fun result => ?_
  cases result with
  | ok result => exact .pure _
  | error fault =>
    dsimp only
    split
    · refine .bind (host.complain_blind _) fun _ => ?_
      split
      · exact .bind (host.complain_blind _) fun _ => .pure _
      · exact .pure _
    · exact .throw _

theorem Generation.store_blind (host : Host) (m : Manager) (order : Generation) (now : Int)
    (g : Granularity) : Blind (store host m order now g : Action σ Unit) :=
  .bind (Store.insertAverages_blind m _ g _) fun _ => host.print_blind _

section

variable (host : Host) {file : String → Properties.File}

theorem Host.connect_alike (alike : ∀ path, FileAlike (host.file path) (file path)) :
    Indistinct (fun a b => b.1 = a.1 ∧ a.2.Alike b.2) (host.connect : Action σ (Settings × Manager))
      (Host.connect { host with file }) :=
  .bind (Blind.ofExcept _) fun settings _ same => same ▸
    .bind (Blind.record rfl) fun _ _ _ => .bind (Blind.ofExcept _) fun _ _ _ =>
      .bind (Manager.ofSettings_alike alike settings) fun _ _ managers => .pure ⟨rfl, managers⟩

theorem Command.perform_alike (alike : ∀ path, FileAlike (host.file path) (file path))
    (command : Command) :
    Indistinct Eq (command.perform host : Action σ Nat) (command.perform { host with file }) := by
  refine .bind (host.connect_alike alike) fun a b both => ?_
  obtain ⟨settings, m⟩ := a
  obtain ⟨settings', m'⟩ := b
  obtain ⟨rfl, managers⟩ : settings' = settings ∧ m.Alike m' := both
  have closes : Blind (m.close : Action σ Unit) := m.close_blind
  cases command with
  | info =>
    dsimp only
    rw [infoText_alike managers, Manager.close_alike managers]
    exact Blind.bind (.ensuring (host.print_blind _) closes) fun _ => .pure 0
  | purge now =>
    dsimp only
    rw [Store.purge_alike managers, Manager.close_alike managers]
    exact Blind.bind (.ensuring (.bind (Store.purge_blind m now _) fun _ =>
      printReport_blind host _) closes) fun _ => .pure 0
  | query g since limit =>
    dsimp only
    rw [Store.selectPoints_alike managers, Manager.close_alike managers]
    exact Blind.bind (.ensuring (.bind (Store.selectPoints_blind m since limit g _) fun _ =>
      printReport_blind host _) closes) fun _ => .pure 0
  | execute sql =>
    have executed : (executeStatement { host with file } m' sql : Action σ _)
        = executeStatement host m sql := by
      unfold executeStatement
      rw [Store.executeSql_alike managers]
      rfl
    dsimp only
    rw [executed, Manager.close_alike managers]
    refine Blind.bind (.ensuring (executeStatement_blind host m sql) closes) fun result => ?_
    cases result with
    | some result => exact .bind (printReport_blind host _) fun _ => .pure 0
    | none => exact .pure 1

theorem Generation.perform_alike (alike : ∀ path, FileAlike (host.file path) (file path))
    (order : Generation) :
    Indistinct Eq (order.perform host : Action σ Nat) (order.perform { host with file }) := by
  refine .bind (host.connect_alike alike) fun a b both => ?_
  obtain ⟨settings, m⟩ := a
  obtain ⟨settings', m'⟩ := b
  obtain ⟨rfl, managers⟩ : settings' = settings ∧ m.Alike m' := both
  have stores (now : Int) : (store { host with file } m' order now : Granularity → Action σ Unit)
      = store host m order now := by
    funext g
    dsimp only [store]
    rw [Store.insertAverages_alike managers]
    rfl
  dsimp only
  rw [Manager.isEnabled_alike managers, Manager.close_alike managers]
  simp only [stores]
  split
  · exact Blind.bind (host.complain_blind _) fun _ => .pure 1
  · have each (now : Int) : Blind
        (Granularity.all.forM (store host m order now) : Action σ Unit) :=
      .bind (store_blind host m order now _) fun _ =>
        .bind (store_blind host m order now _) fun _ =>
          .bind (store_blind host m order now _) fun _ => .pure _
    exact Blind.get (fun _ _ => rfl) fun w => .bind (.ask _) fun _ =>
      .bind (.ensuring (each _) m.close_blind) fun _ => .bind (.ask _) fun _ =>
        .bind (host.print_blind _) fun _ => .pure 0

omit [Surroundings σ] in
theorem obey_alike {perform perform' : α → Action σ Nat} (usage : String) (order : Order α)
    (alike : ∀ command, Indistinct Eq (perform command) (perform' command)) :
    Indistinct Eq (obey usage order perform) (obey usage order perform') := by
  cases order with
  | error misuse => exact Blind.bind (.update fun _ => rfl) fun _ => .pure misused
  | ok command? =>
    cases command? with
    | none => exact Blind.bind (.update fun _ => rfl) fun _ => .pure 0
    | some command => exact alike command

end

end CommandLine

private theorem Program.loggingOf_veiled (events : List Event) :
    loggingOf (events.map Event.veiled) = loggingOf events := by
  unfold loggingOf
  rw [List.findSome?_map]
  congr 2
  funext e
  cases e <;> rfl

open CommandLine in
/-- What a run carries out. -/
def Program.action (host : Host) (args : List String) : Action Schedule Nat :=
  match args with
  | "generate" :: args => generate host args
  | _ => administer host args

private theorem Program.run_eq (host : CommandLine.Host) (now : Moment) (args : List String) :
    run host now args = outcomeOf (Int.fdiv now.instant Moment.microsPerSecond)
      (action host args { surroundings := { now } }).1
      (action host args { surroundings := { now } }).2 := by
  have same : (action host args { surroundings := { now } }) = match args with
      | "generate" :: args => CommandLine.generate host args { surroundings := { now } }
      | _ => CommandLine.administer host args { surroundings := { now } } := by
    unfold action
    split <;> rfl
  rw [same]
  rfl

/-- What is written of a run is the same for runs that cannot be told apart. -/
theorem Program.outcomeOf_indistinct {a b : Action Schedule Nat} {w : World Schedule}
    (indistinct : Action.Indistinct Eq a b) (created : Int) :
    outcomeOf created (a w).1 (a w).2 = outcomeOf created (b w).1 (b w).2 := by
  obtain ⟨results, worlds⟩ := indistinct w w rfl
  rw [Result.matches_eq_iff.mp results]
  generalize (a w).2 = w₁ at worlds ⊢
  generalize (b w).2 = w₁' at worlds ⊢
  obtain ⟨events, rfl⟩ := World.exists_events worlds
  have logging : loggingOf events = loggingOf w₁.events := by
    rw [← loggingOf_veiled, ← World.events_veiled worlds, loggingOf_veiled]
  unfold outcomeOf
  dsimp only
  rw [logging]

/-- Two makings of a manager come to the same: they end in the same fault, or in managers that no
client can tell apart. After any moves the worlds look alike and the same connections are held, and
any further move is answered alike. -/
def Manager.Interchangeable [Surroundings σ] (made made' : Except Fault Manager × World σ) : Prop :=
  made.2.veiled = made'.2.veiled ∧
    Result.Matches (fun m m' => ∀ moves,
        (Client.play m ⟨made.2, []⟩ moves).Alike (Client.play m' ⟨made'.2, []⟩ moves) ∧
          ∀ move, (Client.play m' ⟨made'.2, []⟩ moves).reply m' move
            = (Client.play m ⟨made.2, []⟩ moves).reply m move)
      made.1 made'.1

private theorem Manager.interchangeable [Surroundings σ] {a b : Action σ Manager}
    (alike : Action.Indistinct Manager.Alike a b) (w : World σ) :
    Manager.Interchangeable (a w) (b w) := by
  obtain ⟨results, worlds⟩ := alike w w rfl
  refine ⟨worlds, ?_⟩
  generalize a w = made at results worlds ⊢
  generalize b w = made' at results worlds ⊢
  obtain ⟨result, w₁⟩ := made
  obtain ⟨result', w₁'⟩ := made'
  cases results with
  | error fault => exact .error fault
  | ok managers =>
    refine .ok fun moves => ?_
    have start : Client.Alike ⟨w₁, []⟩ ⟨w₁', []⟩ := ⟨worlds, rfl⟩
    have clients := Client.play_alike managers start moves
    exact ⟨clients, fun move => Client.reply_alike managers clients move⟩

open CommandLine in
/-- The password does not leak. Over sources and files that are equal except for their passwords,
the same is logged, answered, raised and printed, with the same exit code, and the same happens
between the store, the pool and the driver but for the connection string of a new pool. -/
theorem passwords_hidden [Surroundings σ] {source source' : List (String × Value)}
    {file file' : String → Properties.File} (sources : SourceAlike source source')
    (files : ∀ path, FileAlike (file path) (file' path)) :
    (∀ (retry : Retry) (w : World σ), Manager.Interchangeable
      (Manager.make (some source) retry w) (Manager.make (some source') retry w)) ∧
    (∀ (settings : Settings) (w : World σ), Manager.Interchangeable
      (Manager.ofSettings settings file w) (Manager.ofSettings settings file' w)) ∧
    (∀ (host : Host) (args : List String) (w : World σ),
      let ran := administer { host with file } args w
      let ran' := administer { host with file := file' } args w
      ran.1 = ran'.1 ∧ ran.2.veiled = ran'.2.veiled) ∧
    (∀ (host : Host) (args : List String) (w : World σ),
      let ran := generate { host with file } args w
      let ran' := generate { host with file := file' } args w
      ran.1 = ran'.1 ∧ ran.2.veiled = ran'.2.veiled) ∧
    ∀ (host : Host) (now : Moment) (args : List String),
      Program.run { host with file } now args
        = Program.run { host with file := file' } now args := by
  have administered {σ : Type} [Surroundings σ] (host : Host) (args : List String) :
      Action.Indistinct Eq (administer { host with file } args : Action σ Nat)
        (administer { host with file := file' } args) :=
    obey_alike _ _ (Command.perform_alike { host with file } files)
  have generated {σ : Type} [Surroundings σ] (host : Host) (args : List String) :
      Action.Indistinct Eq (generate { host with file } args : Action σ Nat)
        (generate { host with file := file' } args) :=
    obey_alike _ _ (Generation.perform_alike { host with file } files)
  refine ⟨fun retry => Manager.interchangeable (Manager.make_alike sources retry),
    fun settings => Manager.interchangeable (Manager.ofSettings_alike files settings),
    fun host args w => ?_, fun host args w => ?_, fun host now args => ?_⟩
  · obtain ⟨results, worlds⟩ := administered host args w w rfl
    exact ⟨Result.matches_eq_iff.mp results, worlds⟩
  · obtain ⟨results, worlds⟩ := generated host args w w rfl
    exact ⟨Result.matches_eq_iff.mp results, worlds⟩
  · rw [Program.run_eq, Program.run_eq]
    refine Program.outcomeOf_indistinct ?_ _
    unfold Program.action
    split
    · exact generated host _
    · exact administered host args

/-- A source with a given password, and a user whose name a NUL cuts short. -/
def secretSource (password : String) : List (String × Value) :=
  [("jdbc.url", .text "password=old dbname='it\\'s'"), ("password", .text password),
    ("user", .text "ann\x00'")]

/-- A file of properties with a given password. -/
def secretFile (password : String) : Properties.File :=
  .content (Text.encodeUtf8 ("jdbc.url : postgresql://db/sales\npassword=" ++ password))

theorem passwords_hidden_quoted :
    Properties.load (secretFile "it's \\ a=b") = .ok
      [("jdbc.url", "postgresql://db/sales"), ("password", "it's \\ a=b")] ∧
    Manager.Interchangeable (σ := Schedule)
      (Manager.make (some (secretSource "it's")) {} (Schedule.failing .openPool))
      (Manager.make (some (secretSource "\\ ")) {} (Schedule.failing .openPool)) ∧
    Program.run { file := fun _ => secretFile "it's \\ a=b" } { clock := 0 } ["info"]
      = Program.run { file := fun _ => secretFile "other" } { clock := 0 } ["info"] := by
  have secrets : IsSecret "it's" ∧ IsSecret "\\ " ∧ IsSecret "it's \\ a=b" ∧ IsSecret "other" := by
    unfold IsSecret
    decide
  obtain ⟨quote, slash, mixed, plain⟩ := secrets
  have loaded : Properties.load (secretFile "it's \\ a=b") = .ok
      [("jdbc.url", "postgresql://db/sales"), ("password", "it's \\ a=b")] := rfl
  have loaded' : Properties.load (secretFile "other") = .ok
      [("jdbc.url", "postgresql://db/sales"), ("password", "other")] := rfl
  have sources : SourceAlike (secretSource "it's") (secretSource "\\ ") :=
    .cons (.same _) (.cons (.passwords quote slash) (.cons (.same _) .nil))
  have files (path : String) : FileAlike (secretFile "it's \\ a=b") (secretFile "other") := by
    rw [FileAlike, loaded, loaded']
    exact .ok (.cons (.same _) (.cons (.passwords mixed plain) .nil))
  obtain ⟨made, -, -, -, ran⟩ := passwords_hidden (σ := Schedule) sources files
  exact ⟨loaded, made _ _, ran {} _ _⟩

end BucketStore

import DuckdbCoda.Lib.Accounts
import DuckdbCoda.Model.Process

/-!
# What an event does to a process

One case for each event and outcome (`Process.Moves`), with the calls of the
client in it; `step_moves` says that these are all. A database and a scan are told
by the event that they come from (`AttachedBy`, `OpenedBy`). What an open scan has
to do with that event, with its own calls and with the catalog of its database is
proved once for all events (`ScansKeep.accounting`).
-/

namespace DuckdbCoda

open History

variable {σ : Type} {env : Environment σ} {fuel : Nat}

/-- What ATTACH loads its catalog with. -/
def RustExtAttachConfig.loadConfig (config : RustExtAttachConfig) : RustExtClientConfig :=
  { config.clientConfig with includeSystemColumns := config.includeSystemColumns }

/-- An event, the process after it and what DuckDB sees of it. -/
inductive Process.Moves (fuel : Nat) (env : Environment σ) (process : Process σ) :
    ProcessEvent σ → Process σ → ProcessAnswer → Prop where
  | refused {context path exception} :
      Moves fuel env process (.attach context path) process (.error exception)
  | notLoaded {context path attachConfig message world exception} :
      resolveAttachConfig env.remote.sdk (attachHost env.duckdb) path context = .ok attachConfig →
      loadCatalog fuel env.remote attachConfig.loadConfig process.world =
        some (.error message, world) →
      Moves fuel env process (.attach context path) { process with world } (.error exception)
  | attached {context path attachConfig catalogInfo world} :
      resolveAttachConfig env.remote.sdk (attachHost env.duckdb) path context = .ok attachConfig →
      loadCatalog fuel env.remote attachConfig.loadConfig process.world =
        some (.ok catalogInfo, world) →
      Moves fuel env process (.attach context path)
        { process with databases := process.databases.push { attachConfig, catalogInfo }, world }
        (.ok [])
  | notOpened {database tableName context calls input exception} :
      Moves fuel env process (.openScan database tableName context calls input) process
        (.error exception)
  | opened {database tableName context calls input catalog entry state} :
      process.databases.get? database = some catalog →
      catalog.mainSchema.lookupEntry tableName = some entry →
      rustBridgeScanInitGlobal context catalog.client
        (boundScan env.remote.serde env.duckdb (fun _ => entry) 0 calls) input = .ok state →
      Moves fuel env process (.openScan database tableName context calls input)
        { process with scans := process.scans.push { database, state } } (.ok [])
  | scanned {name scan call} :
      process.scans.get? name = some scan →
      rustBridgeScan fuel (nextScanBatch env.remote) env.duckdb env.vectorSize
        (scan.state.withScan (scan.state.scan, process.world)) = some call →
      Moves fuel env process (.scan name)
        { process with
          scans := process.scans.set name
            { scan with state := call.2.withScan call.2.scan.1 }
          world := call.2.scan.2 }
        call.1
  | closed {name scan} :
      process.scans.get? name = some scan →
      Moves fuel env process (.closeScan name)
        { process with scans := process.scans.clear name } (.ok [])
  | sunk {database tableName context statement chunk catalog entry answer} :
      process.databases.get? database = some catalog →
      catalog.mainSchema.lookupEntry tableName = some entry →
      Moves fuel env process (.sink database tableName context statement chunk)
        { process with
          world := (DuckdbCoda.sink ⟨env.remote, env.duckdb, catalog.client⟩
            ⟨entry.tableInfo, statement⟩ chunk (.start context process.world)).2.world }
        answer
  | detached {database} :
      process.unused database = true →
      Moves fuel env process (.detach database)
        { process with databases := process.databases.clear database } (.ok [])
  | outside {change} :
      Moves fuel env process (.outside change)
        { process with world := { process.world with server := change process.world.server } }
        (.ok [])

theorem attach_moves {process process' : Process σ} {context : AttachHostContext} {path : String}
    {answer : ProcessAnswer}
    (h : process.attach fuel env context path = some (process', answer)) :
    process.Moves fuel env (.attach context path) process' answer := by
  obtain ⟨⟨attached, world⟩, hattach, heq⟩ := Option.map_eq_some_iff.mp h
  unfold rustBridgeAttach at hattach
  cases hresolve : resolveAttachConfig env.remote.sdk (attachHost env.duckdb) path context with
  | error exception =>
      rw [hresolve] at hattach
      cases hattach
      cases heq
      exact .refused
  | ok attachConfig =>
      rw [hresolve] at hattach
      obtain ⟨⟨listed, last⟩, hlist, hlisted⟩ := Option.map_eq_some_iff.mp hattach
      obtain ⟨⟨loaded, last'⟩, hload, hthrown⟩ := Option.map_eq_some_iff.mp hlist
      cases hthrown
      cases hlisted
      cases loaded with
      | error message =>
          -- what was asked for is in the log, but there is no database
          cases heq
          exact .notLoaded hresolve hload
      | ok catalogInfo =>
          cases heq
          exact .attached hresolve hload

/-- **Every step is one of these.** -/
theorem step_moves {process process' : Process σ} {event : ProcessEvent σ}
    {answer : ProcessAnswer} (h : process.step fuel env event = some (process', answer)) :
    process.Moves fuel env event process' answer := by
  cases event with
  | attach context path => exact attach_moves h
  | openScan database tableName context calls input =>
      obtain ⟨catalog, hdatabase, h⟩ := Option.bind_eq_some_iff.mp h
      obtain ⟨entry, hentry, heq⟩ := Option.map_eq_some_iff.mp h
      rw [Process.openScan] at heq
      cases hinit : rustBridgeScanInitGlobal context catalog.client
          (boundScan env.remote.serde env.duckdb (fun _ => entry) 0 calls) input with
      | error exception =>
          -- an explicit transaction: nothing was opened
          rw [hinit] at heq
          cases heq
          exact .notOpened
      | ok state =>
          rw [hinit] at heq
          cases heq
          exact .opened hdatabase hentry hinit
  | scan name =>
      obtain ⟨scan, hscan, h⟩ := Option.bind_eq_some_iff.mp h
      obtain ⟨call, hcall, heq⟩ := Option.map_eq_some_iff.mp h
      cases heq
      exact .scanned hscan hcall
  | closeScan name =>
      obtain ⟨scan, hscan, heq⟩ := Option.map_eq_some_iff.mp h
      cases heq
      exact .closed hscan
  | sink database tableName context statement chunk =>
      obtain ⟨catalog, hdatabase, h⟩ := Option.bind_eq_some_iff.mp h
      obtain ⟨entry, hentry, heq⟩ := Option.map_eq_some_iff.mp h
      cases heq
      exact .sunk hdatabase hentry
  | detach database =>
      obtain ⟨catalog, hdatabase, h⟩ := Option.bind_eq_some_iff.mp h
      split at h
      case isTrue hunused =>
        cases h
        exact .detached hunused
      case isFalse => cases h
  | outside change =>
      cases h
      exact .outside

/-- A database stays attached as long as a scan of it is open. -/
theorem step_keeps_database {process process' : Process σ} {event : ProcessEvent σ}
    {answer : ProcessAnswer} (h : process.step fuel env event = some (process', answer))
    {scan : OpenScan ScanHandle} (hopen : scan ∈ process.scans.items) {catalog : RustBridgeCatalog}
    (hcatalog : process.databases.get? scan.database = some catalog) :
    process'.databases.get? scan.database = some catalog := by
  cases step_moves h with
  | attached =>
      show (process.databases.push _).get? scan.database = _
      rw [Slots.get?_push, if_neg (Nat.ne_of_lt (Slots.lt_next_of_get? hcatalog))]
      exact hcatalog
  | @detached database hunused =>
      -- no open scan uses the database
      have hother := List.all_eq_true.mp hunused scan hopen
      show (process.databases.clear database).get? scan.database = _
      rw [Slots.get?_clear, if_neg (bne_iff_ne.mp hother)]
      exact hcatalog
  | _ => exact hcatalog

/-! ## What is kept of a step -/

/-- What a run, or a closer look at it, keeps of each step: at least what DuckDB sees
of it. -/
structure Recording (σ ε : Type) where
  tell : Process σ → Process σ → ProcessEvent σ → ProcessAnswer → ε
  seen : ε → ProcessEvent σ × ProcessAnswer
  seen_tell : ∀ process process' event answer,
    seen (tell process process' event answer) = (event, answer)

/-- A run keeps nothing else. -/
def plainly : Recording σ (ProcessEvent σ × ProcessAnswer) where
  tell _ _ event answer := (event, answer)
  seen := id
  seen_tell _ _ _ _ := rfl

variable {ε : Type} {recording : Recording σ ε}

/-- A step and what is kept of it. -/
def Recording.step (recording : Recording σ ε) (fuel : Nat) (env : Environment σ)
    (process : Process σ) (event : ProcessEvent σ) : Option (Process σ × ε) :=
  (process.step fuel env event).map fun (process', answer) =>
    (process', recording.tell process process' event answer)

theorem Recording.step_some {process process' : Process σ} {event : ProcessEvent σ} {record : ε}
    (h : recording.step fuel env process event = some (process', record)) :
    ∃ answer, process.step fuel env event = some (process', answer) ∧
      record = recording.tell process process' event answer := by
  obtain ⟨⟨next, answer⟩, hstep, heq⟩ := Option.map_eq_some_iff.mp h
  cases heq
  exact ⟨answer, hstep, rfl⟩

/-! ## Databases, by the order they were attached in -/

/-- The event has attached a database. -/
def attachesDatabase : ProcessEvent σ × ProcessAnswer → Bool
  | (.attach _ _, .ok _) => true
  | _ => false

/-- The ATTACH of the history that a database comes from. -/
def AttachedBy (history : List (ProcessEvent σ × ProcessAnswer)) (database : Nat)
    (context : AttachHostContext) (path : String) : Prop :=
  Nth attachesDatabase history database (.attach context path, .ok [])

def databaseCalls : Calls (Process σ) (ProcessEvent σ × ProcessAnswer) RustBridgeCatalog where
  objects process := process.databases
  isOpening := attachesDatabase
  isCall _ _ := false

/-- A database has the configuration that its ATTACH resolved to. -/
def DatabaseAttached (env : Environment σ)
    (history : List (ProcessEvent σ × ProcessAnswer)) (database : Nat)
    (config : RustExtAttachConfig) : Prop :=
  ∃ context path, AttachedBy history database context path ∧
    resolveAttachConfig env.remote.sdk (attachHost env.duckdb) path context = .ok config

/-- Every database has, in every run. -/
theorem databaseAccounting (fuel : Nat) (env : Environment σ) :
    Accounting (plainly.step fuel env) databaseCalls fun _ history _ database catalog =>
      DatabaseAttached env history database catalog.attachConfig where
  advances := by
    intro process history event process' record hrecord
    obtain ⟨answer, hstep, rfl⟩ := Recording.step_some hrecord
    cases step_moves hstep with
    | attached hresolve =>
        refine .opens rfl rfl (fun _ => rfl) fun _ => ⟨_, _, nth_last ?_, hresolve⟩
        rfl
    | detached =>
        refine .other rfl (fun _ => rfl) (Slots.next_clear _ _) ?_
        exact fun name catalog hget => Slots.get?_of_clear hget
    | _ => exact .other rfl (fun _ => rfl) rfl fun _ _ => id
  later := by
    rintro process history own event process' record name catalog hrecord _ ⟨context, path, hattach,
      hresolve⟩
    exact ⟨context, path, hattach.snoc _, hresolve⟩

/-! ## Scans, by the order they were opened in -/

/-- The event has opened a scan. -/
def opensScan : ProcessEvent σ × ProcessAnswer → Bool
  | (.openScan _ _ _ _ _, .ok _) => true
  | _ => false

/-- The event of the history that a scan comes from. -/
def OpenedBy (history : List (ProcessEvent σ × ProcessAnswer)) (name database : Nat)
    (tableName : String) (context : ClientContext) (planned : List BindDataCall)
    (input : TableFunctionInitInput) : Prop :=
  Nth opensScan history name (.openScan database tableName context planned input, .ok [])

/-- The event is a call of the scan. -/
def callsScan (event : ProcessEvent σ) (name : Nat) : Bool :=
  match event with
  | .scan called => name == called
  | _ => false

/-- The open scans, what opens one and what calls it. -/
def scanCalls (recording : Recording σ ε) : Calls (Process σ) ε (OpenScan ScanHandle) where
  objects process := process.scans
  isOpening record := opensScan (recording.seen record)
  isCall record := callsScan (recording.seen record).1

/-- Relates what was kept of a run so far and of the calls of a scan, the catalog of
its database, its name and the scan. -/
abbrev ScanRelation (ε : Type) :=
  List ε → List ε → RustBridgeCatalog → Nat → OpenScan ScanHandle → Prop

/-- What makes a relation hold of every open scan: it outlives later events, a scan
that is opened has it, and a call keeps it. -/
structure ScansKeep (fuel : Nat) (env : Environment σ) (recording : Recording σ ε)
    (P : ScanRelation ε) : Prop where
  later : ∀ history own catalog name scan record, P history own catalog name scan →
    P (history ++ [record]) own catalog name scan
  opened : ∀ history record database catalog tableName entry context planned input state,
    recording.seen record = (.openScan database tableName context planned input, .ok []) →
    catalog.mainSchema.lookupEntry tableName = some entry →
    rustBridgeScanInitGlobal context catalog.client
      (boundScan env.remote.serde env.duckdb (fun _ => entry) 0 planned) input = .ok state →
    P (history ++ [record]) [] catalog (history.countP (scanCalls recording).isOpening)
      { database, state }
  scanned : ∀ history own catalog name scan process process' call,
    P history own catalog name scan →
    rustBridgeScan fuel (nextScanBatch env.remote) env.duckdb env.vectorSize
      (scan.state.withScan (scan.state.scan, process.world)) = some call →
    process'.world = call.2.scan.2 →
    P (history ++ [recording.tell process process' (.scan name) call.1])
      (own ++ [recording.tell process process' (.scan name) call.1]) catalog name
      { scan with state := call.2.withScan call.2.scan.1 }

/-- The database of the scan is attached, and the scan stands in the relation to it. -/
def ScanSatisfies (P : ScanRelation ε) : Account (Process σ) ε (OpenScan ScanHandle) :=
  fun process history own name scan => ∃ catalog,
    process.databases.get? scan.database = some catalog ∧ P history own catalog name scan

/-- **Rule for open scans.** -/
theorem ScansKeep.accounting {P : ScanRelation ε} (keep : ScansKeep fuel env recording P) :
    Accounting (recording.step fuel env) (scanCalls recording) (ScanSatisfies P) where
  advances := by
    intro process history event process' record hrecord
    obtain ⟨answer, hstep, rfl⟩ := Recording.step_some hrecord
    have hseen := recording.seen_tell process process' event answer
    have hopening : (scanCalls recording).isOpening
        (recording.tell process process' event answer) = opensScan (event, answer) := by
      show opensScan (recording.seen _) = _
      rw [hseen]
    have hcall : ∀ name, (scanCalls recording).isCall
        (recording.tell process process' event answer) name = callsScan event name := by
      intro name
      show callsScan (recording.seen _).1 name = _
      rw [hseen]
    cases step_moves hstep with
    | @opened database _ _ _ _ catalog _ state hdatabase hentry hinit =>
        exact .opens rfl hopening hcall fun _ => ⟨catalog, hdatabase,
          keep.opened history _ database catalog _ _ _ _ _ state hseen hentry hinit⟩
    | @scanned name scan call hscan hreturns =>
        refine .called hscan rfl hopening hcall ?_
        rintro own ⟨catalog, hcatalog, hrelated⟩
        exact ⟨catalog, hcatalog,
          keep.scanned history own catalog name scan process _ call hrelated hreturns rfl⟩
    | closed =>
        -- the other scans keep their slots
        refine .other hopening hcall (Slots.next_clear _ _) ?_
        exact fun name scan hget => Slots.get?_of_clear hget
    | _ => exact .other hopening hcall rfl fun _ _ => id
  later := by
    rintro process history own event process' record name scan hrecord hopen ⟨catalog, hcatalog,
      hrelated⟩
    obtain ⟨answer, hstep, rfl⟩ := Recording.step_some hrecord
    exact ⟨catalog, step_keeps_database hstep (Slots.mem_items_of_get? hopen) hcatalog,
      keep.later history own catalog name scan _ hrelated⟩

end DuckdbCoda

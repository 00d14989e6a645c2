import DuckdbCoda.Logic.AbiPushdown
import DuckdbCoda.Logic.ScanSource
import DuckdbCoda.Model.AbiProcess
import DuckdbCoda.Theorems.AttachConfig

/-!
# The memory of a process

The process with its memory refines the one without it (`run_forget`), and it
never releases a block twice, reads one that is gone or loses one, except in a
call that fails (`process_owned`): what is live is what the open objects own and
what failed calls have left behind.
-/

namespace DuckdbCoda.Abi

open History Ownership

variable {σ : Type} {env : Environment σ} {library : CppLibrary} {fuel : Nat}

/-! ## The process without its memory -/

def Process.toValue (process : Process σ) : DuckdbCoda.Process σ where
  databases := process.databases.map RustBridgeCatalog.toValue
  scans := process.scans.map OpenScan.toValue
  world := process.world

/-- What a step leaves and shows, without the memory. -/
def forgetStep (result : Process σ × ProcessAnswer) : DuckdbCoda.Process σ × ProcessAnswer :=
  (result.1.toValue, result.2)

def ScanSource.toValue (source : ScanSource σ) : DuckdbCoda.ScanHandle × World σ :=
  (source.scan.contents.toValue, source.world)

theorem nextScanBatch_value (remote : Remote σ) (fuel : Nat) (source : ScanSource σ) :
    (nextScanBatch remote fuel source).map (fun result => (result.1, result.2.toValue)) =
      DuckdbCoda.nextScanBatch remote fuel source.toValue := by
  have hnext := nextBatch_value fuel remote source.scan.contents source.world
    (source.scan.borrow source.memory)
  simp only [nextScanBatch, DuckdbCoda.nextScanBatch, ScanSource.toValue, ← hnext,
    Option.map_map]
  congr 1
  funext ⟨answer, handle, world, memory⟩
  cases answer with
  | ok batch => rfl
  | error message =>
      exact congrArg (fun text => (Except.error (Exception.invalidInput text),
        (handle.toValue, world)))
        (allocString_contents ("failed to fetch next Coda scan batch" ++ ": " ++ message) memory)

theorem unused_toValue (process : Process σ) (database : Nat) :
    process.toValue.unused database = process.unused database := by
  simp only [DuckdbCoda.Process.unused, Process.unused, Process.toValue, Slots.items_map,
    List.all_map]
  rfl

theorem attach_forget (process : Process σ) (context : AttachHostContext) (path : String) :
    (process.attach fuel env context path).map forgetStep =
      process.toValue.attach fuel env context path := by
  have hattach := rustBridgeAttach_value fuel env.remote env.duckdb context path process.world
    process.memory
  unfold Process.attach DuckdbCoda.Process.attach
  rw [show process.toValue.world = process.world from rfl, ← hattach, Option.map_map,
    Option.map_map]
  congr 1
  funext ⟨answer, world, memory⟩
  cases answer with
  | error exception => rfl
  | ok catalog =>
      simp only [Function.comp, forgetStep, forgetCatalog, Except.map, Process.toValue,
        Slots.map_push]

/-- The handle of a scan that is opened has the client it is given. -/
theorem rustBridgeScanInitGlobal_config {context : ClientContext}
    {config : DuckdbCoda.RustExtClientConfig} {bindData : RustBridgeScanBindData}
    {input : TableFunctionInitInput} {state : RustBridgeScanGlobalState DuckdbCoda.ScanHandle}
    (h : rustBridgeScanInitGlobal context config bindData input = .ok state) :
    state.scan.config = config ∧ state.rows = ⟨[], false⟩ := by
  unfold rustBridgeScanInitGlobal at h
  split at h
  · cases h
  · cases h
    exact ⟨rfl, rfl⟩

theorem openScan_forget (process : Process σ) (database : Nat) (catalog : RustBridgeCatalog)
    (entry : RustBridgeTableCatalogEntry) (context : ClientContext) (calls : List BindDataCall)
    (input : TableFunctionInitInput) :
    forgetStep (process.openScan env library database catalog entry context calls input) =
      process.toValue.openScan env database catalog.toValue entry context calls input := by
  have hbound := (boundScan_leaves library env.remote.serde env.duckdb entry calls
    (process.memory.useAll catalog.blocks)).value
  unfold Process.openScan DuckdbCoda.Process.openScan
  rw [show catalog.toValue.client = catalog.client.toValue from rfl, ← hbound]
  rcases boundScan library env.remote.serde env.duckdb entry calls
    (process.memory.useAll catalog.blocks) with ⟨bindData, memory⟩
  dsimp only
  cases hinit : rustBridgeScanInitGlobal context catalog.client.toValue bindData input with
  | error exception => rfl
  | ok state =>
      have hstate : OpenScan.toValue ⟨database, catalog, ⟨some 0, ⟨catalog.client, state.scan⟩⟩,
          ⟨⟨none, []⟩, false⟩, state.withScan ()⟩ = ⟨database, state⟩ := by
        have hconfig := (rustBridgeScanInitGlobal_config hinit).1
        simp only [OpenScan.toValue, ScanHandle.toValue, ← hconfig]
        rfl
      simp only [forgetStep, Process.toValue, Slots.map_push]
      rw [← hstate]
      rfl

theorem sink_forget (process : Process σ) (catalog : RustBridgeCatalog) (operator : DmlOperator)
    (context : ClientContext) (chunk : DataChunk) :
    forgetStep (process.sink env library catalog operator context chunk) =
      process.toValue.sink env catalog.toValue operator context chunk := by
  have hsink := (sink_borrows library env.remote env.duckdb operator chunk context process.world
    process.memory (le_refl catalog.blocks)).value
  simp only [forgetStep, Process.sink, Process.toValue, DuckdbCoda.Process.sink]
  rw [show catalog.toValue.client = catalog.client.toValue from rfl]
  refine Prod.ext ?_ ?_
  · exact congrArg (fun world => (⟨_, _, world⟩ : DuckdbCoda.Process σ)) (congrArg Prod.snd hsink)
  · exact congrArg (fun answer => Except.map (fun _ => []) answer) (congrArg Prod.fst hsink)

theorem scan_forget (process : Process σ) (name : Nat) (scan : OpenScan) :
    (process.scan fuel env name scan).map forgetStep =
      process.toValue.scan fuel env name scan.toValue := by
  let source : ScanSource σ := ⟨scan.scan, scan.rows, process.world,
    process.memory.useAll (scan.catalog.blocks + scan.rows.blocks)⟩
  have hcall : (rustBridgeScan fuel (nextScanBatch env.remote) env.duckdb env.vectorSize
      (scan.state.withScan source)).map (overSource ScanSource.toValue) =
        rustBridgeScan fuel (DuckdbCoda.nextScanBatch env.remote) env.duckdb env.vectorSize
          (scan.toValue.state.withScan (scan.toValue.state.scan, process.toValue.world)) :=
    rustBridgeScan_map ScanSource.toValue (nextScanBatch_value env.remote)
      (scan.state.withScan source)
  unfold Process.scan DuckdbCoda.Process.scan
  rw [← hcall, Option.map_map, Option.map_map]
  congr 1
  funext ⟨answer, state⟩
  simp only [Function.comp, forgetStep, overSource, Process.toValue, Slots.map_set]
  rfl

theorem databaseOf_forget (process : Process σ) (database : Nat) :
    process.toValue.databases.get? database =
      (process.databases.get? database).map RustBridgeCatalog.toValue :=
  Slots.get?_map _ _ _

theorem scanOf_forget (process : Process σ) (name : Nat) :
    process.toValue.scans.get? name = (process.scans.get? name).map OpenScan.toValue :=
  Slots.get?_map _ _ _

/-- **One event**, by what it looks up first. -/
theorem step_forget (process : Process σ) (event : ProcessEvent σ) :
    (process.step fuel env library event).map forgetStep = process.toValue.step fuel env event := by
  cases event with
  | attach context path => exact attach_forget process context path
  | openScan database tableName context calls input =>
      show Option.map _ (Option.bind _ _) = Option.bind _ _
      rw [databaseOf_forget]
      cases process.databases.get? database with
      | none => rfl
      | some catalog =>
          simp only [Option.bind_some, Option.map_some, Option.map_map]
          congr 1
          funext entry
          exact openScan_forget process database catalog entry context calls input
  | scan name =>
      show Option.map _ (Option.bind _ _) = Option.bind _ _
      rw [scanOf_forget]
      cases process.scans.get? name with
      | none => rfl
      | some scan => exact scan_forget process name scan
  | closeScan name =>
      show Option.map _ (Option.map _ _) = Option.map _ _
      rw [scanOf_forget, Option.map_map, Option.map_map]
      congr 1
      funext scan
      simp only [Function.comp, forgetStep, Process.toValue, Slots.map_clear]
  | sink database tableName context statement chunk =>
      show Option.map _ (Option.bind _ _) = Option.bind _ _
      rw [databaseOf_forget]
      cases process.databases.get? database with
      | none => rfl
      | some catalog =>
          simp only [Option.bind_some, Option.map_some, Option.map_map]
          congr 1
          funext entry
          exact sink_forget process catalog ⟨entry.tableInfo, statement⟩ context chunk
  | detach database =>
      show Option.map _ (Option.bind _ _) = Option.bind _ _
      rw [databaseOf_forget]
      cases process.databases.get? database with
      | none => rfl
      | some catalog =>
          simp only [Option.bind_some, Option.map_some, unused_toValue]
          split
          · simp only [Option.map_some, forgetStep, Process.toValue, Slots.map_clear]
          · rfl
  | outside change => rfl

/-- **Refinement.** A run with the memory shows what the run without it shows. -/
theorem run_forget (library : CppLibrary) (process : Process σ) (events : List (ProcessEvent σ)) :
    (process.run fuel env library events).map (fun result => (result.1.toValue, result.2)) =
      process.toValue.run fuel env events := by
  refine runSteps_map Process.toValue ?_ events process
  intro process event
  rw [← @step_forget σ env library fuel process event, Option.map_map, Option.map_map]
  rfl

/-! ## What the process owns -/

def Process.blocks (process : Process σ) : Multiset Nat :=
  blocksOf RustBridgeCatalog.blocks process.databases.items +
    blocksOf OpenScan.blocks process.scans.items

/-- An open scan reads the catalog of an attached database, and the rows it reads
are those of its batch. -/
structure OpenScan.Bound (databases : Slots RustBridgeCatalog) (scan : OpenScan) : Prop where
  attached : databases.get? scan.database = some scan.catalog
  client : scan.scan.contents.config = scan.catalog.client
  buffer : scan.state.rows = scan.rows.toValue

/-- The live blocks are those of the open objects, and `lost`. -/
structure Process.Owned (process : Process σ) (lost : Multiset Nat) : Prop where
  memory : process.memory.Holds (process.blocks + lost)
  scans : ∀ name scan, process.scans.get? name = some scan → scan.Bound process.databases

/-- The blocks of an open object, and those of all others. -/
theorem blocksOf_split {α : Type} (blocks : α → Multiset Nat) {table : Slots α} {name : Nat}
    {item : α} (h : table.get? name = some item) :
    ∃ others, blocksOf blocks table.items = blocks item + others ∧
      (∀ item', blocksOf blocks (table.set name item').items = blocks item' + others) ∧
      blocksOf blocks (table.clear name).items = others := by
  obtain ⟨before, after, hitems, hset, hclear⟩ := Slots.items_split h
  refine ⟨blocksOf blocks before + blocksOf blocks after, ?_, ?_, ?_⟩
  · rw [hitems, blocksOf_append, blocksOf_cons, add_left_comm]
  · intro item'
    rw [hset, blocksOf_append, blocksOf_cons, add_left_comm]
  · rw [hclear, blocksOf_append]

/-- The blocks of an open object are live. -/
theorem blocks_le_of_get? {α : Type} (blocks : α → Multiset Nat) {table : Slots α} {name : Nat}
    {item : α} (h : table.get? name = some item) : blocks item ≤ blocksOf blocks table.items :=
  blocks_le_blocksOf blocks (Slots.mem_items_of_get? h)

/-! ## A scan -/

/-- Between two batches: the rows of the scan are those of the live batch. -/
def BufferLive (config : RustExtClientConfig) (others : Multiset Nat) :
    SourceRelation (ScanSource σ) :=
  fun _ rows source => source.scan.contents.config = config ∧ rows = source.rows.toValue ∧
    source.memory.Holds (source.scan.blocks + source.rows.blocks + others)

/-- The same with blocks that nothing points to any more. -/
def BufferLost (config : RustExtClientConfig) (others : Multiset Nat) :
    SourceRelation (ScanSource σ) :=
  fun table rows source => ∃ lost, BufferLive config (lost + others) table rows source

/-- What one batch of the handle makes of the source. -/
theorem nextScanBatch_cases {remote : Remote σ} {source source' : ScanSource σ}
    {answer : Except Exception DuckdbCoda.RustExtScanBatch}
    (h : nextScanBatch remote fuel source = some (answer, source')) :
    ∃ loaded handle world memory,
      source.scan.contents.nextBatch fuel remote source.world (source.scan.borrow source.memory) =
        some (loaded, handle, world, memory) ∧
      ((∃ batch, loaded = .ok batch ∧ answer = .ok batch.toValue ∧
        source' = ⟨{ source.scan with contents := handle }, batch, world,
          (freeScanBatch source.rows memory).useAll batch.blocks⟩) ∨
      ∃ message exception, loaded = .error message ∧ answer = .error exception ∧
        source' = ⟨{ source.scan with contents := handle }, source.rows, world,
          (takeError "failed to fetch next Coda scan batch" loaded memory).2⟩) := by
  obtain ⟨⟨loaded, handle, world, memory⟩, hbatch, heq⟩ := Option.map_eq_some_iff.mp h
  refine ⟨loaded, handle, world, memory, hbatch, ?_⟩
  cases loaded with
  | ok batch =>
      cases heq
      exact .inl ⟨batch, rfl, rfl, rfl⟩
  | error message =>
      cases heq
      exact .inr ⟨message, _, rfl, rfl, rfl⟩

theorem nextScanBatch_keeps {remote : Remote σ} {config : RustExtClientConfig}
    {others : Multiset Nat} (hconfig : config.blocks ≤ others) :
    SourceKeeps (nextScanBatch remote) (BufferLive config others) (BufferLost config others) := by
  intro fuel table rows source ⟨hsame, hrows, hmemory⟩
  have hborrow : source.scan.borrow source.memory = source.memory := by
    refine RawParts.borrow_eq hmemory ?_
    rw [add_assoc]
    exact Multiset.le_add_right _ _
  have hlive : source.scan.contents.config.blocks ≤
      source.scan.blocks + source.rows.blocks + others := by
    rw [hsame]
    exact hconfig.trans (Multiset.le_add_left _ _)
  constructor
  · intro batch source' h
    obtain ⟨loaded, handle, world, memory, hbatch, hcases⟩ := nextScanBatch_cases h
    rw [hborrow] at hbatch
    obtain ⟨hsame', hsettles⟩ := nextBatch_settles hmemory hlive hbatch
    rcases hcases with ⟨page, rfl, heq, rfl⟩ | ⟨message, exception, _, heq, _⟩
    · cases heq
      -- the batch that was in the buffer is freed
      have hfreed : (freeScanBatch source.rows memory).Holds
          (page.blocks + (source.scan.blocks + others)) :=
        freeScanBatch_holds ((settles_ok.mp hsettles).of_eq (by abel))
      refine ⟨hsame'.trans hsame, rfl, ?_⟩
      show Memory.Holds ((freeScanBatch source.rows memory).useAll page.blocks)
        (source.scan.blocks + page.blocks + others)
      rw [hfreed.useAll (Multiset.le_add_right _ _)]
      exact hfreed.of_eq (by abel)
    · cases heq
  · intro exception source' h
    obtain ⟨loaded, handle, world, memory, hbatch, hcases⟩ := nextScanBatch_cases h
    rw [hborrow] at hbatch
    obtain ⟨hsame', hsettles⟩ := nextBatch_settles hmemory hlive hbatch
    rcases hcases with ⟨page, _, heq, _⟩ | ⟨message, exception', rfl, _, rfl⟩
    · cases heq
    · obtain ⟨lost, hlost⟩ := settles_error.mp
        (takeError_settles "failed to fetch next Coda scan batch" hsettles)
      refine ⟨lost, hsame'.trans hsame, hrows, hlost.of_eq ?_⟩
      show lost + (source.scan.blocks + source.rows.blocks + others) =
        source.scan.blocks + source.rows.blocks + (lost + others)
      abel

/-! ## The steps -/

/-- A call of the extension that ends in an exception after it may have allocated
something. -/
def FailedCall : ProcessEvent σ × ProcessAnswer → Prop
  | (.attach _ _, .error _) => True
  | (.scan _, .error _) => True
  | _ => False

variable {process process' : Process σ} {lost : Multiset Nat} {answer : ProcessAnswer}

/-- A catalog that is attached is live. -/
theorem Process.Owned.catalog_le (h : process.Owned lost) {database : Nat}
    {catalog : RustBridgeCatalog} (hget : process.databases.get? database = some catalog) :
    process.memory.useAll catalog.blocks = process.memory :=
  h.memory.useAll (((blocks_le_of_get? RustBridgeCatalog.blocks hget).trans
    (Multiset.le_add_right _ _)).trans (Multiset.le_add_right _ _))

theorem OpenScan.Bound.push {databases : Slots RustBridgeCatalog} {scan : OpenScan}
    (h : scan.Bound databases) (catalog : RustBridgeCatalog) :
    scan.Bound (databases.push catalog) where
  attached := by
    rw [Slots.get?_push, if_neg (Nat.ne_of_lt (Slots.lt_next_of_get? h.attached)), h.attached]
  client := h.client
  buffer := h.buffer

theorem attach_owned {context : AttachHostContext} {path : String} (h : process.Owned lost)
    (hstep : process.attach fuel env context path = some (process', answer)) :
    ∃ leak, process'.Owned (leak + lost) ∧ ∀ shown, answer = .ok shown → leak = 0 := by
  obtain ⟨⟨attached, world, memory⟩, hattach, heq⟩ := Option.map_eq_some_iff.mp hstep
  have hsettles := rustBridgeAttach_settles h.memory hattach
  cases attached with
  | error exception =>
      cases heq
      obtain ⟨leak, hleak⟩ := settles_error.mp hsettles
      exact ⟨leak, ⟨hleak.of_eq (add_left_comm leak process.blocks lost), h.scans⟩, nofun⟩
  | ok catalog =>
      cases heq
      refine ⟨0, ⟨(settles_ok.mp hsettles).of_eq ?_, ?_⟩, fun _ _ => rfl⟩
      · simp only [Process.blocks, Slots.items_push, blocksOf_append, blocksOf_cons, blocksOf_nil]
        abel
      · intro name scan hscan
        exact (h.scans name scan hscan).push catalog

theorem openScan_owned {database : Nat} {catalog : RustBridgeCatalog}
    {entry : RustBridgeTableCatalogEntry} {context : ClientContext} {calls : List BindDataCall}
    {input : TableFunctionInitInput} (h : process.Owned lost)
    (hget : process.databases.get? database = some catalog)
    (hstep : process.openScan env library database catalog entry context calls input =
      (process', answer)) : process'.Owned lost := by
  have hbound := (boundScan_leaves library env.remote.serde env.duckdb entry calls
    process.memory).holds h.memory
  unfold Process.openScan at hstep
  rw [h.catalog_le hget] at hstep
  rcases hcalls : boundScan library env.remote.serde env.duckdb entry calls process.memory with
    ⟨bindData, mid⟩
  rw [hcalls] at hbound
  simp only [hcalls] at hstep
  cases hinit : rustBridgeScanInitGlobal context catalog.client.toValue bindData input with
  | error exception =>
      rw [hinit] at hstep
      cases hstep
      exact ⟨hbound, h.scans⟩
  | ok state =>
      -- the handle is boxed, and its box belongs to the scan
      rw [hinit] at hstep
      have hcontents := RawParts.into_contents false (ScanHandle.mk catalog.client state.scan) mid
      have hboxed := RawParts.into_holds false (ScanHandle.mk catalog.client state.scan) hbound
      rcases hinto : RawParts.into false (ScanHandle.mk catalog.client state.scan) mid
        with ⟨box, memory⟩
      rw [hinto] at hcontents hboxed
      simp only [hinto] at hstep
      cases hstep
      refine ⟨hboxed.of_eq ?_, ?_⟩
      · simp only [Process.blocks, Slots.items_push, blocksOf_append, blocksOf_cons, blocksOf_nil,
          OpenScan.blocks, RustExtScanBatch.blocks]
        rw [show (RawParts.mk none [] : RawParts (List RustExtRow)).blocks = 0 from rfl]
        abel
      · intro name scan hscan
        rw [Slots.get?_push] at hscan
        split at hscan
        · cases hscan
          exact ⟨hget, congrArg ScanHandle.config hcontents, (rustBridgeScanInitGlobal_config hinit).2⟩
        · exact h.scans name scan hscan

/-- A sink hands its database back as it was, whether it returns or throws. -/
theorem sink_owned {database : Nat} {catalog : RustBridgeCatalog} {operator : DmlOperator}
    {context : ClientContext} {chunk : DataChunk} (h : process.Owned lost)
    (hget : process.databases.get? database = some catalog) :
    (process.sink env library catalog operator context chunk).1.Owned lost := by
  have hcatalog : catalog.blocks ≤ process.blocks + lost :=
    ((blocks_le_of_get? RustBridgeCatalog.blocks hget).trans (Multiset.le_add_right _ _)).trans
      (Multiset.le_add_right _ _)
  exact ⟨(sink_borrows library env.remote env.duckdb operator chunk context process.world
    process.memory hcatalog).holds h.memory, h.scans⟩

theorem scan_owned {name : Nat} {scan : OpenScan} (h : process.Owned lost)
    (hget : process.scans.get? name = some scan)
    (hstep : process.scan fuel env name scan = some (process', answer)) :
    ∃ leak, process'.Owned (leak + lost) ∧ ∀ shown, answer = .ok shown → leak = 0 := by
  have hbound := h.scans name scan hget
  obtain ⟨others, hitems, hset, _⟩ := blocksOf_split OpenScan.blocks hget
  -- all but the handle and the batch of this scan
  let rest := others + blocksOf RustBridgeCatalog.blocks process.databases.items + lost
  have hlive : process.memory.Holds (scan.scan.blocks + scan.rows.blocks + rest) := by
    refine h.memory.of_eq ?_
    simp only [Process.blocks, hitems, OpenScan.blocks, rest]
    abel
  have hcatalog : scan.catalog.blocks ≤ rest :=
    ((blocks_le_of_get? RustBridgeCatalog.blocks hbound.attached).trans
      (Multiset.le_add_left _ _)).trans (Multiset.le_add_right _ _)
  have huse : process.memory.useAll (scan.catalog.blocks + scan.rows.blocks) = process.memory := by
    refine hlive.useAll ?_
    rw [add_comm scan.catalog.blocks]
    exact add_le_add (Multiset.le_add_left _ _) hcatalog
  have hconfig : scan.catalog.client.blocks ≤ rest :=
    (scan.catalog.attachConfig.clientConfig_le.trans (Multiset.le_add_right _ _)).trans hcatalog
  unfold Process.scan at hstep
  rw [huse] at hstep
  obtain ⟨⟨called, state⟩, hcall, heq⟩ := Option.map_eq_some_iff.mp hstep
  have hleaves := rustBridgeScan_keeps (nextScanBatch_keeps hconfig)
    (scan.state.withScan ⟨scan.scan, scan.rows, process.world, process.memory⟩)
    ⟨hbound.client, hbound.buffer, hlive⟩ hcall
  -- the process with the scan put back, whatever was lost meanwhile
  have hback : ∀ leak, BufferLive scan.catalog.client (leak + rest) state.table state.rows state.scan →
      process'.Owned (leak + lost) := by
    intro leak hbuffer
    obtain ⟨hsame, hrows, hmemory⟩ := hbuffer
    cases heq
    refine ⟨hmemory.of_eq ?_, ?_⟩
    · simp only [Process.blocks, hset, OpenScan.blocks, rest]
      abel
    · intro other opened hopened
      rw [Slots.get?_set hget] at hopened
      split at hopened
      · cases hopened
        exact ⟨hbound.attached, hsame, hrows⟩
      · exact h.scans other opened hopened
  rcases hleaves with hkept | ⟨⟨leak, hlost⟩, exception, hthrown⟩
  · refine ⟨0, hback 0 ?_, fun _ _ => rfl⟩
    rw [zero_add]
    exact hkept
  · refine ⟨leak, hback leak hlost, ?_⟩
    intro shown hshown
    cases heq
    exact absurd (hthrown.symm.trans hshown) nofun

theorem closeScan_owned {name : Nat} {scan : OpenScan} (h : process.Owned lost)
    (hget : process.scans.get? name = some scan) :
    Process.Owned { process with
      scans := process.scans.clear name, memory := scan.destroy process.memory } lost := by
  obtain ⟨others, hitems, _, hclear⟩ := blocksOf_split OpenScan.blocks hget
  refine ⟨?_, ?_⟩
  · refine RawParts.release_holds (freeScanBatch_holds (h.memory.of_eq ?_))
    simp only [Process.blocks, hitems, hclear, OpenScan.blocks]
    abel
  · intro other opened hopened
    rw [Slots.get?_clear] at hopened
    split at hopened
    · cases hopened
    · exact h.scans other opened hopened

theorem detach_owned {database : Nat} {catalog : RustBridgeCatalog} (h : process.Owned lost)
    (hget : process.databases.get? database = some catalog)
    (hunused : process.unused database = true) :
    Process.Owned { process with
      databases := process.databases.clear database
      memory := catalog.destroy process.memory } lost := by
  obtain ⟨others, hitems, _, hclear⟩ := blocksOf_split RustBridgeCatalog.blocks hget
  refine ⟨?_, ?_⟩
  · refine RustBridgeCatalog.destroy_holds (h.memory.of_eq ?_)
    simp only [Process.blocks, hitems, hclear]
    abel
  · intro name scan hscan
    have hother : scan.database ≠ database := by
      simpa using List.all_eq_true.mp hunused scan (Slots.mem_items_of_get? hscan)
    have hbound := h.scans name scan hscan
    refine ⟨?_, hbound.client, hbound.buffer⟩
    rw [Slots.get?_clear, if_neg hother, hbound.attached]

/-- **One event**: what a process owns goes with it, and only a failed call loses
something. -/
theorem step_owned {event : ProcessEvent σ} (h : process.Owned lost)
    (hstep : process.step fuel env library event = some (process', answer)) :
    ∃ leak, process'.Owned (leak + lost) ∧ (¬ FailedCall (event, answer) → leak = 0) := by
  have hkept : process'.Owned lost →
      ∃ leak, process'.Owned (leak + lost) ∧ (¬ FailedCall (event, answer) → leak = 0) :=
    fun howned => ⟨0, by rwa [zero_add], fun _ => rfl⟩
  cases event with
  | attach context path =>
      -- a page that is not read, or a catalog that is not loaded, may leak
      obtain ⟨leak, howned, hnone⟩ := attach_owned h hstep
      refine ⟨leak, howned, ?_⟩
      intro hfine
      cases answer with
      | ok shown => exact hnone shown rfl
      | error exception => exact absurd trivial hfine
  | openScan database tableName context calls input =>
      obtain ⟨catalog, hget, hopen⟩ := Option.bind_eq_some_iff.mp hstep
      obtain ⟨entry, _, heq⟩ := Option.map_eq_some_iff.mp hopen
      exact hkept (openScan_owned h hget heq)
  | scan name =>
      obtain ⟨scan, hget, hscan⟩ := Option.bind_eq_some_iff.mp hstep
      -- so may a page of rows
      obtain ⟨leak, howned, hnone⟩ := scan_owned h hget hscan
      refine ⟨leak, howned, ?_⟩
      intro hfine
      cases answer with
      | ok shown => exact hnone shown rfl
      | error exception => exact absurd trivial hfine
  | closeScan name =>
      obtain ⟨scan, hget, heq⟩ := Option.map_eq_some_iff.mp hstep
      cases heq
      exact hkept (closeScan_owned h hget)
  | sink database tableName context statement chunk =>
      obtain ⟨catalog, hget, hsink⟩ := Option.bind_eq_some_iff.mp hstep
      obtain ⟨entry, _, heq⟩ := Option.map_eq_some_iff.mp hsink
      cases heq
      exact hkept (sink_owned h hget)
  | detach database =>
      obtain ⟨catalog, hget, hdetach⟩ := Option.bind_eq_some_iff.mp hstep
      split at hdetach
      case isTrue hunused =>
        cases hdetach
        exact hkept (detach_owned h hget hunused)
      case isFalse hused => cases hdetach
  | outside change =>
      cases hstep
      exact hkept ⟨h.memory, h.scans⟩

theorem start_owned (server : σ) : (Process.start server).Owned 0 :=
  ⟨Memory.holds_empty, fun name scan h => by cases name <;> cases h⟩

/-- The live blocks are those of the open objects, and what each failed call of
the history has lost. -/
def AccountsFor (process : Process σ) (history : List (ProcessEvent σ × ProcessAnswer)) : Prop :=
  ∃ leaks, List.Forall₂ (fun entry leak => ¬ FailedCall entry → leak = 0) history leaks ∧
    process.Owned leaks.sum

theorem accountsFor_step {history : List (ProcessEvent σ × ProcessAnswer)}
    {event : ProcessEvent σ} (h : AccountsFor process history)
    (hstep : process.step fuel env library event = some (process', answer)) :
    AccountsFor process' (history ++ [(event, answer)]) := by
  obtain ⟨leaks, hleaks, howned⟩ := h
  obtain ⟨leak, hnext, hnone⟩ := step_owned howned hstep
  refine ⟨leaks ++ [leak], List.rel_append hleaks (.cons hnone .nil), ?_⟩
  rw [List.sum_append, List.sum_singleton, add_comm]
  exact hnext

theorem accountsFor_run {server : σ} {events : List (ProcessEvent σ)}
    {history : List (ProcessEvent σ × ProcessAnswer)}
    (hrun : Process.run fuel env library (.start server) events = some (process, history)) :
    AccountsFor process history :=
  runSteps_invariant
    (fun process history event process' entry hinv hstep => by
      obtain ⟨⟨next, answer⟩, htaken, heq⟩ := Option.map_eq_some_iff.mp hstep
      cases heq
      exact accountsFor_step hinv htaken)
    events (Process.start server) process [] history ⟨[], .nil, start_owned server⟩ hrun

/-- **Ownership.** In every run of a process no block is released twice or read
after its release. The live blocks are those of the attached databases and of
the open scans, and the ones that failed calls have lost, each call its own. -/
theorem process_owned (fuel : Nat) (env : Environment σ) (library : CppLibrary) (server : σ)
    (events : List (ProcessEvent σ)) (process : Process σ)
    (history : List (ProcessEvent σ × ProcessAnswer))
    (hrun : Process.run fuel env library (.start server) events = some (process, history)) :
    process.memory.faults = 0 ∧ ∃ leaks,
      List.Forall₂ (fun entry leak => ¬ FailedCall entry → leak = 0) history leaks ∧
      process.memory.live = process.blocks + leaks.sum := by
  obtain ⟨leaks, hleaks, howned⟩ := accountsFor_run hrun
  exact ⟨howned.memory.sound, leaks, hleaks, howned.memory.live⟩

def mockEnvironment : Environment (List HttpReply) := ⟨mockCatalogRemote, mockDuckDb, 2048⟩

/-- Fifteen bytes fit in a `std::string`, and a vector doubles. -/
def mockLibrary : CppLibrary where
  inPlace text := text.utf8ByteSize ≤ 15
  grow capacity := 2 * capacity

/-- Attach the mock document, scan its table as far as the replies go, delete two
rows, and close everything. -/
def mockEvents : List (ProcessEvent (List HttpReply)) := [
  .attach (mockAttach [("token", "mock-token")] none) "mock-doc",
  .openScan 0 "Tasks" ⟨true, ""⟩ [] ⟨[.column 0], []⟩,
  .scan 0,
  .closeScan 0,
  .sink 0 "Tasks" ⟨true, ""⟩ (.delete 0)
    ⟨1, [fun _ => .varchar "i-1", fun _ => .varchar "i-a-rather-long-row-id"]⟩,
  .detach 0]

theorem process_owned_mock :
    ∃ process history,
      Process.run 4 mockEnvironment mockLibrary (.start mockCatalogWorld.server) mockEvents =
        some (process, history) ∧ process.memory.faults = 0 ∧ ∃ leaks,
      List.Forall₂ (fun entry leak => ¬ FailedCall entry → leak = 0) history leaks ∧
      process.memory.live = process.blocks + leaks.sum :=
  ⟨_, _, rfl, process_owned 4 mockEnvironment mockLibrary mockCatalogWorld.server mockEvents _ _
    rfl⟩

end DuckdbCoda.Abi

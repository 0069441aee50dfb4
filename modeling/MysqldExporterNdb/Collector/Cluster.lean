import MysqldExporterNdb.Collector.Package

/-!
# The collectors of `ndbinfo`'s cluster-wide tables

`ScrapeNdbinfoClusterLocks`, `ScrapeNdbinfoClusterOperations`,
`ScrapeNdbinfoClusterTransactions`, `ScrapeNdbinfoCountersSPJ` and `ScrapeNdbinfoProcesses`:
one `GROUP BY` query each, whose rows are counted per node (or node type) and per state or name.
-/

open Sql Prometheus Scrape

namespace Collector

/-! ### `ScrapeNdbinfoClusterLocks` -/

def ndbinfoClusterLocksQuery : String :=
  "\n\tSELECT node_id, mode, state, op, count(*), avg(duration_millis) \n\tFROM ndbinfo.cluster_locks \n\tGROUP BY node_id, mode, state, op;\n\t"

def ndbinfoClusterLocksCountDesc (k : PackageConsts) : Desc :=
  ⟨buildFQName "ndb" k.ndbinfo "cluster_locks_count",
    "Number of locks for each node, mode, state and operation type",
    ["nodeID", "mode", "state", "operationType"]⟩

def ndbinfoClusterLocksAvgDurationDesc (k : PackageConsts) : Desc :=
  ⟨buildFQName "ndb" k.ndbinfo "cluster_locks_avg_duration",
    "Lock state average duraton for each node, mode, state and operation type",
    ["nodeID", "mode", "state", "operationType"]⟩

/-- The variables of `ScrapeNdbinfoClusterLocks.Scrape`, at their zero values. -/
structure ClusterLocksVars where
  nodeID : UInt64 := 0
  count : UInt64 := 0
  average : GoFloat := .num 0
  mode : GoString := []
  state : GoString := []
  operation : GoString := []

/-- The loop of `ScrapeNdbinfoClusterLocks.Scrape`. -/
def ndbinfoClusterLocksLoop (k : PackageConsts) : Loop ClusterLocksVars where
  query := ndbinfoClusterLocksQuery
  dests := [.uint64, .string, .string, .string, .uint64, .float64]
  assign := fun v ⟨nodeID, mode, state, operation, count, average, ()⟩ ↦
    { v with nodeID, mode, state, operation, count, average }
  labels v := [.formatUint v.nodeID, .string v.mode, .string v.state, .string v.operation]
  body :=
    [.send (ndbinfoClusterLocksCountDesc k) .gauge fun v ↦ .ofUInt64 v.count,
     .send (ndbinfoClusterLocksAvgDurationDesc k) .gauge fun v ↦ v.average]

/-- `ScrapeNdbinfoClusterLocks`. -/
def scrapeNdbinfoClusterLocks (k : PackageConsts) : Scraper where
  name := "ndbinfo.cluster_locks"
  Vars := ClusterLocksVars
  vars := {}
  loops := [ndbinfoClusterLocksLoop k]

theorem ndbinfoClusterLocksLoop_wellFormed (k : PackageConsts) :
    (ndbinfoClusterLocksLoop k).WellFormed k [true, false, false, false] where
  fresh _ _ _ := ⟨rfl, fun _ ↦ rfl⟩
  kinds _ := rfl
  arity := by simp [ndbinfoClusterLocksLoop, Stmt.desc, ndbinfoClusterLocksCountDesc,
    ndbinfoClusterLocksAvgDurationDesc]
  strings := by
    rintro v ⟨nodeID, mode, state, operation, count, average, ⟨⟩⟩ s hs
    simp [ndbinfoClusterLocksLoop] at hs
    rcases hs with rfl | rfl | rfl <;> simp [stringsOf]
  distinct := by simp [ndbinfoClusterLocksLoop, Stmt.desc, ndbinfoClusterLocksCountDesc,
    ndbinfoClusterLocksAvgDurationDesc]
  valid hk := by
    simp (disch := decide) [ndbinfoClusterLocksLoop, Stmt.desc, ndbinfoClusterLocksCountDesc,
      ndbinfoClusterLocksAvgDurationDesc, err_ndbDesc hk]

/-! ### `ScrapeNdbinfoClusterOperations` -/

def ndbinfoClusterOperationsQuery : String :=
  "\n\tSELECT node_id, operation_type, IFNULL(state,'') AS state, count(*)\n\tFROM ndbinfo.cluster_operations\n\tGROUP BY node_id, operation_type, state\n\t"

def ndbinfoClusterOperationsDesc (k : PackageConsts) : Desc :=
  ⟨buildFQName "ndb" k.ndbinfo "cluster_operations",
    "Number of operations for each node, operation type and state",
    ["nodeID", "operationType", "state"]⟩

/-- The variables of `ScrapeNdbinfoClusterOperations.Scrape`, at their zero values. -/
structure ClusterOperationsVars where
  nodeID : UInt64 := 0
  count : UInt64 := 0
  operationType : GoString := []
  state : GoString := []

/-- The loop of `ScrapeNdbinfoClusterOperations.Scrape`. -/
def ndbinfoClusterOperationsLoop (k : PackageConsts) : Loop ClusterOperationsVars where
  query := ndbinfoClusterOperationsQuery
  dests := [.uint64, .string, .string, .uint64]
  assign := fun v ⟨nodeID, operationType, state, count, ()⟩ ↦
    { v with nodeID, operationType, state, count }
  labels v := [.formatUint v.nodeID, .string v.operationType, .string v.state]
  body :=
    [.send (ndbinfoClusterOperationsDesc k) .gauge fun v ↦ .ofUInt64 v.count]

/-- `ScrapeNdbinfoClusterOperations`. -/
def scrapeNdbinfoClusterOperations (k : PackageConsts) : Scraper where
  name := "ndbinfo.cluster_operations"
  Vars := ClusterOperationsVars
  vars := {}
  loops := [ndbinfoClusterOperationsLoop k]

theorem ndbinfoClusterOperationsLoop_wellFormed (k : PackageConsts) :
    (ndbinfoClusterOperationsLoop k).WellFormed k [true, false, false] where
  fresh _ _ _ := ⟨rfl, fun _ ↦ rfl⟩
  kinds _ := rfl
  arity := by simp [ndbinfoClusterOperationsLoop, Stmt.desc, ndbinfoClusterOperationsDesc]
  strings := by
    rintro v ⟨nodeID, operationType, state, count, ⟨⟩⟩ s hs
    simp [ndbinfoClusterOperationsLoop] at hs
    rcases hs with rfl | rfl <;> simp [stringsOf]
  distinct := by simp [ndbinfoClusterOperationsLoop, Stmt.desc, ndbinfoClusterOperationsDesc]
  valid hk := by
    simp (disch := decide) [ndbinfoClusterOperationsLoop, Stmt.desc, ndbinfoClusterOperationsDesc,
      err_ndbDesc hk]

/-! ### `ScrapeNdbinfoClusterTransactions` -/

def ndbinfoClusterTransactionsQuery : String :=
  "\n\tSELECT node_id, state, count(*) as cnt\n\tFROM ndbinfo.cluster_transactions\n\tGROUP BY node_id, state\n\t"

def ndbinfoClusterTransactionsDesc (k : PackageConsts) : Desc :=
  ⟨buildFQName "ndb" k.ndbinfo "cluster_transactions",
    "Number of transactions for each node and state",
    ["nodeID", "state"]⟩

/-- The variables of `ScrapeNdbinfoClusterTransactions.Scrape`, at their zero values. -/
structure ClusterTransactionsVars where
  nodeID : UInt64 := 0
  count : UInt64 := 0
  state : GoString := []

/-- The loop of `ScrapeNdbinfoClusterTransactions.Scrape`. -/
def ndbinfoClusterTransactionsLoop (k : PackageConsts) : Loop ClusterTransactionsVars where
  query := ndbinfoClusterTransactionsQuery
  dests := [.uint64, .string, .uint64]
  assign := fun v ⟨nodeID, state, count, ()⟩ ↦
    { v with nodeID, state, count }
  labels v := [.formatUint v.nodeID, .string v.state]
  body :=
    [.send (ndbinfoClusterTransactionsDesc k) .gauge fun v ↦ .ofUInt64 v.count]

/-- `ScrapeNdbinfoClusterTransactions`. -/
def scrapeNdbinfoClusterTransactions (k : PackageConsts) : Scraper where
  name := "ndbinfo.cluster_transactions"
  Vars := ClusterTransactionsVars
  vars := {}
  loops := [ndbinfoClusterTransactionsLoop k]

theorem ndbinfoClusterTransactionsLoop_wellFormed (k : PackageConsts) :
    (ndbinfoClusterTransactionsLoop k).WellFormed k [true, false] where
  fresh _ _ _ := ⟨rfl, fun _ ↦ rfl⟩
  kinds _ := rfl
  arity := by simp [ndbinfoClusterTransactionsLoop, Stmt.desc, ndbinfoClusterTransactionsDesc]
  strings := by
    rintro v ⟨nodeID, state, count, ⟨⟩⟩ s hs
    simp [ndbinfoClusterTransactionsLoop] at hs
    subst hs; simp [stringsOf]
  distinct := by simp [ndbinfoClusterTransactionsLoop, Stmt.desc, ndbinfoClusterTransactionsDesc]
  valid hk := by
    simp (disch := decide) [ndbinfoClusterTransactionsLoop, Stmt.desc,
      ndbinfoClusterTransactionsDesc, err_ndbDesc hk]

/-! ### `ScrapeNdbinfoCountersSPJ` -/

def ndbinfoCountersSPJQuery : String :=
  "\n\tSELECT node_id, counter_name, sum(val)\n        FROM ndbinfo.counters\n        WHERE block_name = \"DBSPJ\"\n        GROUP BY node_id, counter_name\n\t"

def ndbinfoCountersSPJDesc (k : PackageConsts) : Desc :=
  ⟨buildFQName "ndb" k.ndbinfo "spj_counter",
    "Event counters for simple operations",
    ["nodeID", "counterName"]⟩

/-- The variables of `ScrapeNdbinfoCountersSPJ.Scrape`, at their zero values. -/
structure CountersSPJVars where
  nodeID : UInt64 := 0
  val : UInt64 := 0
  counterName : GoString := []

/-- The loop of `ScrapeNdbinfoCountersSPJ.Scrape`. -/
def ndbinfoCountersSPJLoop (k : PackageConsts) : Loop CountersSPJVars where
  query := ndbinfoCountersSPJQuery
  dests := [.uint64, .string, .uint64]
  assign := fun v ⟨nodeID, counterName, val, ()⟩ ↦
    { v with nodeID, counterName, val }
  labels v := [.formatUint v.nodeID, .string v.counterName]
  body :=
    [.send (ndbinfoCountersSPJDesc k) .gauge fun v ↦ .ofUInt64 v.val]

/-- `ScrapeNdbinfoCountersSPJ`. -/
def scrapeNdbinfoCountersSPJ (k : PackageConsts) : Scraper where
  name := "ndbinfo.counters.spj"
  Vars := CountersSPJVars
  vars := {}
  loops := [ndbinfoCountersSPJLoop k]

theorem ndbinfoCountersSPJLoop_wellFormed (k : PackageConsts) :
    (ndbinfoCountersSPJLoop k).WellFormed k [true, false] where
  fresh _ _ _ := ⟨rfl, fun _ ↦ rfl⟩
  kinds _ := rfl
  arity := by simp [ndbinfoCountersSPJLoop, Stmt.desc, ndbinfoCountersSPJDesc]
  strings := by
    rintro v ⟨nodeID, counterName, val, ⟨⟩⟩ s hs
    simp [ndbinfoCountersSPJLoop] at hs
    subst hs; simp [stringsOf]
  distinct := by simp [ndbinfoCountersSPJLoop, Stmt.desc, ndbinfoCountersSPJDesc]
  valid hk := by
    simp (disch := decide) [ndbinfoCountersSPJLoop, Stmt.desc, ndbinfoCountersSPJDesc,
      err_ndbDesc hk]

/-! ### `ScrapeNdbinfoProcesses` -/

def ndbinfoProcessesQuery : String :=
  "\n\tSELECT node_type, process_name, count(*) \n\tFROM ndbinfo.processes\n\tGROUP by node_type, process_name;\n\t"

def ndbinfoProcessesCountDesc (k : PackageConsts) : Desc :=
  ⟨buildFQName "ndb" k.ndbinfo "processes",
    "Number of processes for each node type and process name",
    ["nodeType", "processName"]⟩

/-- The variables of `ScrapeNdbinfoProcesses.Scrape`, at their zero values. -/
structure ProcessesVars where
  nodeType : GoString := []
  processName : GoString := []
  count : UInt64 := 0

/-- The loop of `ScrapeNdbinfoProcesses.Scrape`. -/
def ndbinfoProcessesLoop (k : PackageConsts) : Loop ProcessesVars where
  query := ndbinfoProcessesQuery
  dests := [.string, .string, .uint64]
  assign := fun v ⟨nodeType, processName, count, ()⟩ ↦
    { v with nodeType, processName, count }
  labels v := [.string v.nodeType, .string v.processName]
  body :=
    [.send (ndbinfoProcessesCountDesc k) .gauge fun v ↦ .ofUInt64 v.count]

/-- `ScrapeNdbinfoProcesses`. -/
def scrapeNdbinfoProcesses (k : PackageConsts) : Scraper where
  name := "ndbinfo.processes"
  Vars := ProcessesVars
  vars := {}
  loops := [ndbinfoProcessesLoop k]

theorem ndbinfoProcessesLoop_wellFormed (k : PackageConsts) :
    (ndbinfoProcessesLoop k).WellFormed k [false, false] where
  fresh _ _ _ := ⟨rfl, fun _ ↦ rfl⟩
  kinds _ := rfl
  arity := by simp [ndbinfoProcessesLoop, Stmt.desc, ndbinfoProcessesCountDesc]
  strings := by
    rintro v ⟨nodeType, processName, count, ⟨⟩⟩ s hs
    simp [ndbinfoProcessesLoop] at hs
    rcases hs with rfl | rfl <;> simp [stringsOf]
  distinct := by simp [ndbinfoProcessesLoop, Stmt.desc, ndbinfoProcessesCountDesc]
  valid hk := by
    simp (disch := decide) [ndbinfoProcessesLoop, Stmt.desc, ndbinfoProcessesCountDesc,
      err_ndbDesc hk]

end Collector

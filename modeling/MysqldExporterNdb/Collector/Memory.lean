import MysqldExporterNdb.Collector.Package

/-!
# The collectors of `ndbinfo`'s memory tables

`ScrapeNdbinfoMemoryusage` reports `ndbinfo.memoryusage` as it is. `ScrapeNdbinfoResources` and
`ScrapeNdbinfoFreeMemory` run two queries each: the resources of `ndbinfo.resources`, whose pages
are 32768 bytes, then the long message buffer of `ndbinfo.memoryusage`, whose pages are 256
bytes, reported under the memory type `LONG_SIGNAL_MEMORY`.

The two differ in where they convert pages to bytes. `ScrapeNdbinfoResources` multiplies in
`uint64`, which wraps; `ScrapeNdbinfoFreeMemory` first clamps the difference at zero in `uint64`,
then multiplies in `float64`. The assignments are modelled statement by statement, so the wrap is
in the model exactly where it is in the code.
-/

open Sql Prometheus Scrape

namespace Collector

/-! ### `ScrapeNdbinfoMemoryusage` -/

def ndbinfoMemoryusageQuery : String :=
  "\n\tSELECT node_id, memory_type, used, used_pages, total, total_pages \n\tFROM ndbinfo.memoryusage;\n\t"

def ndbinfoMemoryusageUsedDesc (k : PackageConsts) : Desc :=
  ⟨buildFQName "ndb" k.ndbinfo "memory_used",
    "Memory used for each node and memory type in bytes",
    ["nodeID", "memoryType"]⟩

def ndbinfoMemoryusageTotalDesc (k : PackageConsts) : Desc :=
  ⟨buildFQName "ndb" k.ndbinfo "memory_total",
    "Total memory configured for each node and memory type in bytes",
    ["nodeID", "memoryType"]⟩

def ndbinfoMemoryusagePagesDesc (k : PackageConsts) : Desc :=
  ⟨buildFQName "ndb" k.ndbinfo "memory_pages",
    "Number of pages used for each node and memory type",
    ["nodeID", "memoryType"]⟩

def ndbinfoMemoryusageTotalPagesDesc (k : PackageConsts) : Desc :=
  ⟨buildFQName "ndb" k.ndbinfo "memory_total_pages",
    "Total number of pages available for each node and memory type",
    ["nodeID", "memoryType"]⟩

/-- The variables of `ScrapeNdbinfoMemoryusage.Scrape`, at their zero values. -/
structure MemoryusageVars where
  nodeID : UInt64 := 0
  used : UInt64 := 0
  total : UInt64 := 0
  usedPages : UInt64 := 0
  totalPages : UInt64 := 0
  memoryType : GoString := []

/-- The loop of `ScrapeNdbinfoMemoryusage.Scrape`. -/
def ndbinfoMemoryusageLoop (k : PackageConsts) : Loop MemoryusageVars where
  query := ndbinfoMemoryusageQuery
  dests := [.uint64, .string, .uint64, .uint64, .uint64, .uint64]
  assign := fun v ⟨nodeID, memoryType, used, usedPages, total, totalPages, ()⟩ ↦
    { v with nodeID, memoryType, used, usedPages, total, totalPages }
  labels v := [.formatUint v.nodeID, .string v.memoryType]
  body :=
    [.send (ndbinfoMemoryusageUsedDesc k) .gauge fun v ↦ .ofUInt64 v.used,
     .send (ndbinfoMemoryusageTotalDesc k) .gauge fun v ↦ .ofUInt64 v.total,
     .send (ndbinfoMemoryusagePagesDesc k) .gauge fun v ↦ .ofUInt64 v.usedPages,
     .send (ndbinfoMemoryusageTotalPagesDesc k) .gauge fun v ↦ .ofUInt64 v.totalPages]

/-- `ScrapeNdbinfoMemoryusage`. -/
def scrapeNdbinfoMemoryusage (k : PackageConsts) : Scraper where
  name := "ndbinfo.memoryusage"
  Vars := MemoryusageVars
  vars := {}
  loops := [ndbinfoMemoryusageLoop k]

theorem ndbinfoMemoryusageLoop_wellFormed (k : PackageConsts) :
    (ndbinfoMemoryusageLoop k).WellFormed k [true, false] where
  fresh _ _ _ := ⟨rfl, fun _ ↦ rfl⟩
  kinds _ := rfl
  arity := by simp [ndbinfoMemoryusageLoop, Stmt.desc, ndbinfoMemoryusageUsedDesc,
    ndbinfoMemoryusageTotalDesc, ndbinfoMemoryusagePagesDesc, ndbinfoMemoryusageTotalPagesDesc]
  strings := by
    rintro v ⟨nodeID, memoryType, used, usedPages, total, totalPages, ⟨⟩⟩ s hs
    simp [ndbinfoMemoryusageLoop] at hs
    subst hs; simp [stringsOf]
  distinct := by simp [ndbinfoMemoryusageLoop, Stmt.desc, ndbinfoMemoryusageUsedDesc,
    ndbinfoMemoryusageTotalDesc, ndbinfoMemoryusagePagesDesc, ndbinfoMemoryusageTotalPagesDesc]
  valid hk := by
    simp (disch := decide) [ndbinfoMemoryusageLoop, Stmt.desc, ndbinfoMemoryusageUsedDesc,
      ndbinfoMemoryusageTotalDesc, ndbinfoMemoryusagePagesDesc, ndbinfoMemoryusageTotalPagesDesc,
      err_ndbDesc hk]

/-! ### `ScrapeNdbinfoFreeMemory` -/

def ndbinfoFreeMemoryQuery : String :=
  "\n\tSELECT node_id, resource_name, reserved, used\n\tFROM ndbinfo.resources WHERE\n        resource_name = \"TRANSACTION_MEMORY\" OR\n        resource_name = \"JOBBUFFER\" OR\n        resource_name = \"DATA_MEMORY\" OR\n        resource_name = \"TOTAL_GLOBAL_MEMORY\" OR\n        resource_name = \"SCHEMA_TRANS_MEMORY\";\n\t"

def ndbinfoLongSignalMemoryQuery : String :=
  "\n\tSELECT node_id, used_pages, total_pages\n\tFROM ndbinfo.memoryusage WHERE\n        memory_type = \"Long message buffer\";\n\t"

def ndbinfoFreeMemoryDesc (k : PackageConsts) : Desc :=
  ⟨buildFQName "ndb" k.ndbinfo "free_memory",
    "Memory free for each node and memory type in bytes",
    ["nodeID", "memoryType"]⟩

/-- The variables of `ScrapeNdbinfoFreeMemory.Scrape`, at their zero values. -/
structure FreeMemoryVars where
  nodeID : UInt64 := 0
  reserved : UInt64 := 0
  used : UInt64 := 0
  free : UInt64 := 0
  usedPages : UInt64 := 0
  totalPages : UInt64 := 0
  memoryType : GoString := []
  free64 : GoFloat := .num 0

/-- The first loop of `ScrapeNdbinfoFreeMemory.Scrape`: free pages of each resource, in bytes. -/
def ndbinfoFreeMemoryLoop (k : PackageConsts) : Loop FreeMemoryVars where
  query := ndbinfoFreeMemoryQuery
  dests := [.uint64, .string, .uint64, .uint64]
  assign := fun v ⟨nodeID, memoryType, reserved, used, ()⟩ ↦
    let v := { v with nodeID, memoryType, reserved, used }
    let v := { v with free := if v.reserved ≥ v.used then v.reserved - v.used else 0 }
    let v := { v with free64 := .ofUInt64 v.free }
    { v with free64 := v.free64 * .num 32768 }
  labels v := [.formatUint v.nodeID, .string v.memoryType]
  body :=
    [.send (ndbinfoFreeMemoryDesc k) .gauge fun v ↦ v.free64]

/-- The second loop of `ScrapeNdbinfoFreeMemory.Scrape`: free pages of the long message buffer, in
bytes. -/
def ndbinfoFreeMemoryLongSignalLoop (k : PackageConsts) : Loop FreeMemoryVars where
  query := ndbinfoLongSignalMemoryQuery
  dests := [.uint64, .uint64, .uint64]
  assign := fun v ⟨nodeID, usedPages, totalPages, ()⟩ ↦
    let v := { v with nodeID, usedPages, totalPages }
    let v := { v with free := if v.totalPages ≥ v.usedPages then v.totalPages - v.usedPages else 0 }
    let v := { v with free64 := .ofUInt64 v.free }
    { v with free64 := v.free64 * .num 256 }
  labels v := [.formatUint v.nodeID, .string (GoString.ofString "LONG_SIGNAL_MEMORY")]
  body :=
    [.send (ndbinfoFreeMemoryDesc k) .gauge fun v ↦ v.free64]

/-- `ScrapeNdbinfoFreeMemory`. -/
def scrapeNdbinfoFreeMemory (k : PackageConsts) : Scraper where
  name := "ndbinfo.resources.free"
  Vars := FreeMemoryVars
  vars := {}
  loops := [ndbinfoFreeMemoryLoop k, ndbinfoFreeMemoryLongSignalLoop k]

theorem ndbinfoFreeMemoryLoop_wellFormed (k : PackageConsts) :
    (ndbinfoFreeMemoryLoop k).WellFormed k [true, false] where
  fresh _ _ _ := ⟨rfl, fun _ ↦ rfl⟩
  kinds _ := rfl
  arity := by simp [ndbinfoFreeMemoryLoop, Stmt.desc, ndbinfoFreeMemoryDesc]
  strings := by
    rintro v ⟨nodeID, memoryType, reserved, used, ⟨⟩⟩ s hs
    simp [ndbinfoFreeMemoryLoop] at hs
    subst hs; simp [stringsOf]
  distinct := by simp [ndbinfoFreeMemoryLoop, Stmt.desc, ndbinfoFreeMemoryDesc]
  valid hk := by
    simp (disch := decide) [ndbinfoFreeMemoryLoop, Stmt.desc, ndbinfoFreeMemoryDesc, err_ndbDesc hk]

theorem ndbinfoFreeMemoryLongSignalLoop_wellFormed (k : PackageConsts) :
    (ndbinfoFreeMemoryLongSignalLoop k).WellFormed k [true, false] where
  fresh _ _ _ := ⟨rfl, fun _ ↦ rfl⟩
  kinds _ := rfl
  arity := by simp [ndbinfoFreeMemoryLongSignalLoop, Stmt.desc, ndbinfoFreeMemoryDesc]
  strings := by
    rintro v ⟨nodeID, usedPages, totalPages, ⟨⟩⟩ s hs
    simp [ndbinfoFreeMemoryLongSignalLoop] at hs
    subst hs; exact .inr (by decide)
  distinct := by simp [ndbinfoFreeMemoryLongSignalLoop, Stmt.desc, ndbinfoFreeMemoryDesc]
  valid hk := by
    simp (disch := decide) [ndbinfoFreeMemoryLongSignalLoop, Stmt.desc, ndbinfoFreeMemoryDesc,
      err_ndbDesc hk]

/-! ### `ScrapeNdbinfoResources` -/

def ndbinfoResourcesQuery : String :=
  "\n\tSELECT node_id, resource_name, reserved, used\n\tFROM ndbinfo.resources;\n\t"

def ndbinfoResourcesReservedDesc (k : PackageConsts) : Desc :=
  ⟨buildFQName "ndb" k.ndbinfo "memory_resource_reserved",
    "Memory used for each node and memory type in bytes",
    ["nodeID", "memoryType"]⟩

def ndbinfoResourcesUsedDesc (k : PackageConsts) : Desc :=
  ⟨buildFQName "ndb" k.ndbinfo "memory_resource_used",
    "Total memory configured for each node and memory type in bytes",
    ["nodeID", "memoryType"]⟩

/-- The variables of `ScrapeNdbinfoResources.Scrape`, at their zero values. -/
structure ResourcesVars where
  nodeID : UInt64 := 0
  used : UInt64 := 0
  reserved : UInt64 := 0
  usedBytes : UInt64 := 0
  reservedBytes : UInt64 := 0
  totalBytes : UInt64 := 0
  usedPages : UInt64 := 0
  totalPages : UInt64 := 0
  memoryType : GoString := []

/-- The first loop of `ScrapeNdbinfoResources.Scrape`: reserved and used pages of each resource, in bytes. -/
def ndbinfoResourcesLoop (k : PackageConsts) : Loop ResourcesVars where
  query := ndbinfoResourcesQuery
  dests := [.uint64, .string, .uint64, .uint64]
  assign := fun v ⟨nodeID, memoryType, reserved, used, ()⟩ ↦
    let v := { v with nodeID, memoryType, reserved, used }
    { v with reservedBytes := v.reserved * 32768, usedBytes := v.used * 32768 }
  labels v := [.formatUint v.nodeID, .string v.memoryType]
  body :=
    [.send (ndbinfoResourcesReservedDesc k) .gauge fun v ↦ .ofUInt64 v.reservedBytes,
     .send (ndbinfoResourcesUsedDesc k) .gauge fun v ↦ .ofUInt64 v.usedBytes]

/-- The second loop of `ScrapeNdbinfoResources.Scrape`: total and used pages of the long message buffer, in bytes. -/
def ndbinfoResourcesLongSignalLoop (k : PackageConsts) : Loop ResourcesVars where
  query := ndbinfoLongSignalMemoryQuery
  dests := [.uint64, .uint64, .uint64]
  assign := fun v ⟨nodeID, usedPages, totalPages, ()⟩ ↦
    let v := { v with nodeID, usedPages, totalPages }
    { v with totalBytes := v.totalPages * 256, usedBytes := v.usedPages * 256 }
  labels v := [.formatUint v.nodeID, .string (GoString.ofString "LONG_SIGNAL_MEMORY")]
  body :=
    [.send (ndbinfoResourcesReservedDesc k) .gauge fun v ↦ .ofUInt64 v.totalBytes,
     .send (ndbinfoResourcesUsedDesc k) .gauge fun v ↦ .ofUInt64 v.usedBytes]

/-- `ScrapeNdbinfoResources`. -/
def scrapeNdbinfoResources (k : PackageConsts) : Scraper where
  name := "ndbinfo.resources"
  Vars := ResourcesVars
  vars := {}
  loops := [ndbinfoResourcesLoop k, ndbinfoResourcesLongSignalLoop k]

theorem ndbinfoResourcesLoop_wellFormed (k : PackageConsts) :
    (ndbinfoResourcesLoop k).WellFormed k [true, false] where
  fresh _ _ _ := ⟨rfl, fun _ ↦ rfl⟩
  kinds _ := rfl
  arity := by simp [ndbinfoResourcesLoop, Stmt.desc, ndbinfoResourcesReservedDesc,
    ndbinfoResourcesUsedDesc]
  strings := by
    rintro v ⟨nodeID, memoryType, reserved, used, ⟨⟩⟩ s hs
    simp [ndbinfoResourcesLoop] at hs
    subst hs; simp [stringsOf]
  distinct := by simp [ndbinfoResourcesLoop, Stmt.desc, ndbinfoResourcesReservedDesc,
    ndbinfoResourcesUsedDesc]
  valid hk := by
    simp (disch := decide) [ndbinfoResourcesLoop, Stmt.desc, ndbinfoResourcesReservedDesc,
      ndbinfoResourcesUsedDesc, err_ndbDesc hk]

theorem ndbinfoResourcesLongSignalLoop_wellFormed (k : PackageConsts) :
    (ndbinfoResourcesLongSignalLoop k).WellFormed k [true, false] where
  fresh _ _ _ := ⟨rfl, fun _ ↦ rfl⟩
  kinds _ := rfl
  arity := by simp [ndbinfoResourcesLongSignalLoop, Stmt.desc, ndbinfoResourcesReservedDesc,
    ndbinfoResourcesUsedDesc]
  strings := by
    rintro v ⟨nodeID, usedPages, totalPages, ⟨⟩⟩ s hs
    simp [ndbinfoResourcesLongSignalLoop] at hs
    subst hs; exact .inr (by decide)
  distinct := by simp [ndbinfoResourcesLongSignalLoop, Stmt.desc, ndbinfoResourcesReservedDesc,
    ndbinfoResourcesUsedDesc]
  valid hk := by
    simp (disch := decide) [ndbinfoResourcesLongSignalLoop, Stmt.desc, ndbinfoResourcesReservedDesc,
      ndbinfoResourcesUsedDesc, err_ndbDesc hk]

end Collector

import MysqldExporterNdb.Collector.Package

/-!
# The collectors of `ndbinfo`'s disk, time-tracking and log tables

`ScrapeNdbinfoDiskWriteSpeedAggregate`, `ScrapeNdbinfoDiskpagebuffers`,
`ScrapeNdbinfoPgmanTimeTrack`, `ScrapeNdbinfoTcTimeTrack`, `ScrapeNdbinfoLogspaces` and
`ScrapeNdbinfoLogbuffers`: one query each, whose numeric columns become samples labelled by node
and thread, time bucket or log part.
-/

open Sql Prometheus Scrape

namespace Collector

/-! ### `ScrapeNdbinfoDiskWriteSpeedAggregate` -/

def ndbinfoDiskWriteSpeedAggregateQuery : String :=
  "\n\tSELECT node_id, thr_no, backup_lcp_speed_last_10sec, redo_speed_last_10sec, \n\tslowdowns_due_to_io_lag, slowdowns_due_to_high_cpu\n\tFROM ndbinfo.disk_write_speed_aggregate;\n\t"

def ndbinfoDiskWriteSpeedAggregateLcpDesc (k : PackageConsts) : Desc :=
  ⟨buildFQName "ndb" k.ndbinfo "disk_write_speed_lcp",
    "Number of bytes written to disk by backup and LCP processes per second, averaged over the last 10 seconds for each node and thread",
    ["nodeID", "threadNO"]⟩

def ndbinfoDiskWriteSpeedAggregateRedoDesc (k : PackageConsts) : Desc :=
  ⟨buildFQName "ndb" k.ndbinfo "disk_write_speed_redo",
    "Number of bytes written to REDO log processes per second, averaged over the last 10 seconds for each node and thread",
    ["nodeID", "threadNO"]⟩

def ndbinfoDiskWriteSpeedAggregateIOSlowdownDesc (k : PackageConsts) : Desc :=
  ⟨buildFQName "ndb" k.ndbinfo "disk_write_speed_io_slowdown",
    "Number of seconds since last node start that disk writes were slowed due to REDO log I/O lag for each node and thread",
    ["nodeID", "threadNO"]⟩

def ndbinfoDiskWriteSpeedAggregateCPUSlowdownDesc (k : PackageConsts) : Desc :=
  ⟨buildFQName "ndb" k.ndbinfo "disk_write_speed_cpu_slowdown",
    "Number of seconds since last node start that disk writes were slowed due to high CPU usage for each node and thread",
    ["nodeID", "threadNO"]⟩

/-- The variables of `ScrapeNdbinfoDiskWriteSpeedAggregate.Scrape`, at their zero values. -/
structure DiskWriteSpeedAggregateVars where
  nodeID : UInt64 := 0
  threadNO : UInt64 := 0
  lcpWrite : UInt64 := 0
  redoWrite : UInt64 := 0
  slowdownIO : UInt64 := 0
  slowdownCPU : UInt64 := 0

/-- The loop of `ScrapeNdbinfoDiskWriteSpeedAggregate.Scrape`. -/
def ndbinfoDiskWriteSpeedAggregateLoop (k : PackageConsts) : Loop DiskWriteSpeedAggregateVars where
  query := ndbinfoDiskWriteSpeedAggregateQuery
  dests := [.uint64, .uint64, .uint64, .uint64, .uint64, .uint64]
  assign := fun v ⟨nodeID, threadNO, lcpWrite, redoWrite, slowdownIO, slowdownCPU, ()⟩ ↦
    { v with nodeID, threadNO, lcpWrite, redoWrite, slowdownIO, slowdownCPU }
  labels v := [.formatUint v.nodeID, .formatUint v.threadNO]
  body :=
    [.send (ndbinfoDiskWriteSpeedAggregateLcpDesc k) .gauge fun v ↦ .ofUInt64 v.lcpWrite,
     .send (ndbinfoDiskWriteSpeedAggregateRedoDesc k) .gauge fun v ↦ .ofUInt64 v.redoWrite,
     .send (ndbinfoDiskWriteSpeedAggregateIOSlowdownDesc k) .counter fun v ↦ .ofUInt64 v.slowdownIO,
     .send (ndbinfoDiskWriteSpeedAggregateCPUSlowdownDesc k) .counter fun v ↦ .ofUInt64 v.slowdownCPU]

/-- `ScrapeNdbinfoDiskWriteSpeedAggregate`. -/
def scrapeNdbinfoDiskWriteSpeedAggregate (k : PackageConsts) : Scraper where
  name := "ndbinfo.disk_write_speed_aggregate"
  Vars := DiskWriteSpeedAggregateVars
  vars := {}
  loops := [ndbinfoDiskWriteSpeedAggregateLoop k]

theorem ndbinfoDiskWriteSpeedAggregateLoop_wellFormed (k : PackageConsts) :
    (ndbinfoDiskWriteSpeedAggregateLoop k).WellFormed k [true, true] where
  fresh _ _ _ := ⟨rfl, fun _ ↦ rfl⟩
  kinds _ := rfl
  arity := by simp [ndbinfoDiskWriteSpeedAggregateLoop, Stmt.desc,
    ndbinfoDiskWriteSpeedAggregateLcpDesc, ndbinfoDiskWriteSpeedAggregateRedoDesc,
    ndbinfoDiskWriteSpeedAggregateIOSlowdownDesc, ndbinfoDiskWriteSpeedAggregateCPUSlowdownDesc]
  strings := by simp [ndbinfoDiskWriteSpeedAggregateLoop]
  distinct := by simp [ndbinfoDiskWriteSpeedAggregateLoop, Stmt.desc,
    ndbinfoDiskWriteSpeedAggregateLcpDesc, ndbinfoDiskWriteSpeedAggregateRedoDesc,
    ndbinfoDiskWriteSpeedAggregateIOSlowdownDesc, ndbinfoDiskWriteSpeedAggregateCPUSlowdownDesc]
  valid hk := by
    simp (disch := decide) [ndbinfoDiskWriteSpeedAggregateLoop, Stmt.desc,
      ndbinfoDiskWriteSpeedAggregateLcpDesc, ndbinfoDiskWriteSpeedAggregateRedoDesc,
      ndbinfoDiskWriteSpeedAggregateIOSlowdownDesc, ndbinfoDiskWriteSpeedAggregateCPUSlowdownDesc,
      err_ndbDesc hk]

/-! ### `ScrapeNdbinfoDiskpagebuffers` -/

def ndbinfoDiskpagebuffersQuery : String :=
  "\n    SELECT node_id, block_instance, pages_written,\n    \t   pages_written_lcp, pages_read, log_waits,\n    \t   page_requests_direct_return, page_requests_wait_queue,\n    \t   page_requests_wait_io\n    FROM ndbinfo.diskpagebuffer;\n\t"

def ndbinfoDiskpagebuffersPagesWrittenDesc (k : PackageConsts) : Desc :=
  ⟨buildFQName "ndb" k.ndbinfo "diskpagebuffer_pages_written",
    "Number of pages written to disk for each node, block and thread",
    ["nodeID", "threadNO"]⟩

def ndbinfoDiskpagebuffersPagesWrittenLcpDesc (k : PackageConsts) : Desc :=
  ⟨buildFQName "ndb" k.ndbinfo "diskpagebuffer_pages_written_lcp",
    "Number of pages written by local checkpoints for each node, block and thread",
    ["nodeID", "threadNO"]⟩

def ndbinfoDiskpagebuffersPagesReadDesc (k : PackageConsts) : Desc :=
  ⟨buildFQName "ndb" k.ndbinfo "diskpagebuffer_pages_read",
    "Number of pages read from disk for each node, block and thread",
    ["nodeID", "threadNO"]⟩

def ndbinfoDiskpagebuffersLogWaitsDesc (k : PackageConsts) : Desc :=
  ⟨buildFQName "ndb" k.ndbinfo "diskpagebuffer_log_waits",
    "Number of page writes waiting for log to be written to disk for each node, block and thread",
    ["nodeID", "threadNO"]⟩

def ndbinfoDiskpagebuffersDirectDesc (k : PackageConsts) : Desc :=
  ⟨buildFQName "ndb" k.ndbinfo "diskpagebuffer_direct_return",
    "Number of requests for pages that were available in buffer for each node, block and thread",
    ["nodeID", "threadNO"]⟩

def ndbinfoDiskpagebuffersQueueDesc (k : PackageConsts) : Desc :=
  ⟨buildFQName "ndb" k.ndbinfo "diskpagebuffer_wait_queue",
    "Number of requests that had to wait for pages to become available in buffer for each node, block and thread",
    ["nodeID", "threadNO"]⟩

def ndbinfoDiskpagebuffersIODesc (k : PackageConsts) : Desc :=
  ⟨buildFQName "ndb" k.ndbinfo "diskpagebuffer_wait_io",
    "Number of requests that had to be read from disk for each node, block and thread",
    ["nodeID", "threadNO"]⟩

/-- The variables of `ScrapeNdbinfoDiskpagebuffers.Scrape`, at their zero values. -/
structure DiskpagebuffersVars where
  nodeID : UInt64 := 0
  threadNO : UInt64 := 0
  pagesWritten : UInt64 := 0
  pagesWrittenLcp : UInt64 := 0
  pagesRead : UInt64 := 0
  logWaits : UInt64 := 0
  pageRequestsDirectReturn : UInt64 := 0
  pageRequestsWaitQueue : UInt64 := 0
  pageRequestsWaitIO : UInt64 := 0

/-- The loop of `ScrapeNdbinfoDiskpagebuffers.Scrape`. -/
def ndbinfoDiskpagebuffersLoop (k : PackageConsts) : Loop DiskpagebuffersVars where
  query := ndbinfoDiskpagebuffersQuery
  dests := [.uint64, .uint64, .uint64, .uint64, .uint64, .uint64, .uint64, .uint64, .uint64]
  assign := fun v ⟨nodeID, threadNO, pagesWritten, pagesWrittenLcp, pagesRead, logWaits, pageRequestsDirectReturn, pageRequestsWaitQueue, pageRequestsWaitIO, ()⟩ ↦
    { v with nodeID, threadNO, pagesWritten, pagesWrittenLcp, pagesRead, logWaits, pageRequestsDirectReturn, pageRequestsWaitQueue, pageRequestsWaitIO }
  labels v := [.formatUint v.nodeID, .formatUint v.threadNO]
  body :=
    [.send (ndbinfoDiskpagebuffersPagesWrittenDesc k) .counter fun v ↦ .ofUInt64 v.pagesWritten,
     .send (ndbinfoDiskpagebuffersPagesWrittenLcpDesc k) .counter fun v ↦ .ofUInt64 v.pagesWrittenLcp,
     .send (ndbinfoDiskpagebuffersPagesReadDesc k) .counter fun v ↦ .ofUInt64 v.pagesRead,
     .send (ndbinfoDiskpagebuffersLogWaitsDesc k) .counter fun v ↦ .ofUInt64 v.logWaits,
     .send (ndbinfoDiskpagebuffersDirectDesc k) .counter fun v ↦ .ofUInt64 v.pageRequestsDirectReturn,
     .send (ndbinfoDiskpagebuffersQueueDesc k) .counter fun v ↦ .ofUInt64 v.pageRequestsWaitQueue,
     .send (ndbinfoDiskpagebuffersIODesc k) .counter fun v ↦ .ofUInt64 v.pageRequestsWaitIO]

/-- `ScrapeNdbinfoDiskpagebuffers`. -/
def scrapeNdbinfoDiskpagebuffers (k : PackageConsts) : Scraper where
  name := "ndbinfo.diskpagebuffers"
  Vars := DiskpagebuffersVars
  vars := {}
  loops := [ndbinfoDiskpagebuffersLoop k]

theorem ndbinfoDiskpagebuffersLoop_wellFormed (k : PackageConsts) :
    (ndbinfoDiskpagebuffersLoop k).WellFormed k [true, true] where
  fresh _ _ _ := ⟨rfl, fun _ ↦ rfl⟩
  kinds _ := rfl
  arity := by simp [ndbinfoDiskpagebuffersLoop, Stmt.desc, ndbinfoDiskpagebuffersPagesWrittenDesc,
    ndbinfoDiskpagebuffersPagesWrittenLcpDesc, ndbinfoDiskpagebuffersPagesReadDesc,
    ndbinfoDiskpagebuffersLogWaitsDesc, ndbinfoDiskpagebuffersDirectDesc,
    ndbinfoDiskpagebuffersQueueDesc, ndbinfoDiskpagebuffersIODesc]
  strings := by simp [ndbinfoDiskpagebuffersLoop]
  distinct := by simp [ndbinfoDiskpagebuffersLoop, Stmt.desc,
    ndbinfoDiskpagebuffersPagesWrittenDesc, ndbinfoDiskpagebuffersPagesWrittenLcpDesc,
    ndbinfoDiskpagebuffersPagesReadDesc, ndbinfoDiskpagebuffersLogWaitsDesc,
    ndbinfoDiskpagebuffersDirectDesc, ndbinfoDiskpagebuffersQueueDesc, ndbinfoDiskpagebuffersIODesc]
  valid hk := by
    simp (disch := decide) [ndbinfoDiskpagebuffersLoop, Stmt.desc,
      ndbinfoDiskpagebuffersPagesWrittenDesc, ndbinfoDiskpagebuffersPagesWrittenLcpDesc,
      ndbinfoDiskpagebuffersPagesReadDesc, ndbinfoDiskpagebuffersLogWaitsDesc,
      ndbinfoDiskpagebuffersDirectDesc, ndbinfoDiskpagebuffersQueueDesc,
      ndbinfoDiskpagebuffersIODesc, err_ndbDesc hk]

/-! ### `ScrapeNdbinfoPgmanTimeTrack` -/

def ndbinfoPgmanTimeTrackQuery : String :=
  "\n        SELECT node_id, upper_bound, sum(page_reads), sum(page_writes),\n        sum(log_waits), sum(get_page)\n        FROM ndbinfo.pgman_time_track_stats\n        GROUP BY node_id, upper_bound;\n\t"

def ndbinfoPgmanTimeTrackPageReadsDesc (k : PackageConsts) : Desc :=
  ⟨buildFQName "ndb" k.ndbinfo "pgman_time_track_page_reads",
    "Time track of page reads",
    ["nodeID", "upperBound"]⟩

def ndbinfoPgmanTimeTrackPageWritesDesc (k : PackageConsts) : Desc :=
  ⟨buildFQName "ndb" k.ndbinfo "pgman_time_track_page_writes",
    "Time track of page writes",
    ["nodeID", "upperBound"]⟩

def ndbinfoPgmanTimeTrackLogWaitsDesc (k : PackageConsts) : Desc :=
  ⟨buildFQName "ndb" k.ndbinfo "pgman_time_track_log_waits",
    "Time track of wait for UNDO log writes",
    ["nodeID", "upperBound"]⟩

def ndbinfoPgmanTimeTrackGetPageDesc (k : PackageConsts) : Desc :=
  ⟨buildFQName "ndb" k.ndbinfo "pgman_time_track_get_page",
    "Time track of get_page operation",
    ["nodeID", "upperBound"]⟩

/-- The variables of `ScrapeNdbinfoPgmanTimeTrack.Scrape`, at their zero values. -/
structure PgmanTimeTrackVars where
  nodeID : UInt64 := 0
  upperBound : UInt64 := 0
  pageReads : UInt64 := 0
  pageWrites : UInt64 := 0
  logWaits : UInt64 := 0
  getPage : GoFloat := .num 0

/-- The loop of `ScrapeNdbinfoPgmanTimeTrack.Scrape`. -/
def ndbinfoPgmanTimeTrackLoop (k : PackageConsts) : Loop PgmanTimeTrackVars where
  query := ndbinfoPgmanTimeTrackQuery
  dests := [.uint64, .uint64, .uint64, .uint64, .uint64, .float64]
  assign := fun v ⟨nodeID, upperBound, pageReads, pageWrites, logWaits, getPage, ()⟩ ↦
    { v with nodeID, upperBound, pageReads, pageWrites, logWaits, getPage }
  labels v := [.formatUint v.nodeID, .formatUint v.upperBound]
  body :=
    [.send (ndbinfoPgmanTimeTrackPageReadsDesc k) .gauge fun v ↦ .ofUInt64 v.pageReads,
     .send (ndbinfoPgmanTimeTrackPageWritesDesc k) .gauge fun v ↦ .ofUInt64 v.pageWrites,
     .send (ndbinfoPgmanTimeTrackLogWaitsDesc k) .gauge fun v ↦ .ofUInt64 v.logWaits,
     .send (ndbinfoPgmanTimeTrackGetPageDesc k) .gauge fun v ↦ v.getPage]

/-- `ScrapeNdbinfoPgmanTimeTrack`. -/
def scrapeNdbinfoPgmanTimeTrack (k : PackageConsts) : Scraper where
  name := "ndbinfo.pgman_time_track_stats"
  Vars := PgmanTimeTrackVars
  vars := {}
  loops := [ndbinfoPgmanTimeTrackLoop k]

theorem ndbinfoPgmanTimeTrackLoop_wellFormed (k : PackageConsts) :
    (ndbinfoPgmanTimeTrackLoop k).WellFormed k [true, true] where
  fresh _ _ _ := ⟨rfl, fun _ ↦ rfl⟩
  kinds _ := rfl
  arity := by simp [ndbinfoPgmanTimeTrackLoop, Stmt.desc, ndbinfoPgmanTimeTrackPageReadsDesc,
    ndbinfoPgmanTimeTrackPageWritesDesc, ndbinfoPgmanTimeTrackLogWaitsDesc,
    ndbinfoPgmanTimeTrackGetPageDesc]
  strings := by simp [ndbinfoPgmanTimeTrackLoop]
  distinct := by simp [ndbinfoPgmanTimeTrackLoop, Stmt.desc, ndbinfoPgmanTimeTrackPageReadsDesc,
    ndbinfoPgmanTimeTrackPageWritesDesc, ndbinfoPgmanTimeTrackLogWaitsDesc,
    ndbinfoPgmanTimeTrackGetPageDesc]
  valid hk := by
    simp (disch := decide) [ndbinfoPgmanTimeTrackLoop, Stmt.desc,
      ndbinfoPgmanTimeTrackPageReadsDesc, ndbinfoPgmanTimeTrackPageWritesDesc,
      ndbinfoPgmanTimeTrackLogWaitsDesc, ndbinfoPgmanTimeTrackGetPageDesc, err_ndbDesc hk]

/-! ### `ScrapeNdbinfoTcTimeTrack` -/

def ndbinfoTcTimeTrackQuery : String :=
  "\n        SELECT node_id, upper_bound, sum(scans), sum(transactions), sum(read_key_ops),\n        sum(write_key_ops), sum(index_key_ops)\n        FROM ndbinfo.tc_time_track_stats\n        GROUP BY node_id, upper_bound;\n\t"

def ndbinfoTcTimeTrackScansDesc (k : PackageConsts) : Desc :=
  ⟨buildFQName "ndb" k.ndbinfo "tc_time_track_scans",
    "Time track of scans",
    ["nodeID", "upperBound"]⟩

def ndbinfoTcTimeTrackTransactionsDesc (k : PackageConsts) : Desc :=
  ⟨buildFQName "ndb" k.ndbinfo "tc_time_track_transactions",
    "Time track of transactions",
    ["nodeID", "upperBound"]⟩

def ndbinfoTcTimeTrackReadKeyDesc (k : PackageConsts) : Desc :=
  ⟨buildFQName "ndb" k.ndbinfo "tc_time_track_read_key",
    "Time track of read key operations",
    ["nodeID", "upperBound"]⟩

def ndbinfoTcTimeTrackWriteKeyDesc (k : PackageConsts) : Desc :=
  ⟨buildFQName "ndb" k.ndbinfo "tc_time_track_write_key",
    "Time track of write key operations",
    ["nodeID", "upperBound"]⟩

def ndbinfoTcTimeTrackIndexKeyDesc (k : PackageConsts) : Desc :=
  ⟨buildFQName "ndb" k.ndbinfo "tc_time_track_index_key",
    "Time track of index key operations",
    ["nodeID", "upperBound"]⟩

/-- The variables of `ScrapeNdbinfoTcTimeTrack.Scrape`, at their zero values. -/
structure TcTimeTrackVars where
  nodeID : UInt64 := 0
  upperBound : UInt64 := 0
  scans : UInt64 := 0
  transactions : UInt64 := 0
  readKeyOps : UInt64 := 0
  writeKeyOps : UInt64 := 0
  indexKeyOps : UInt64 := 0

/-- The loop of `ScrapeNdbinfoTcTimeTrack.Scrape`. -/
def ndbinfoTcTimeTrackLoop (k : PackageConsts) : Loop TcTimeTrackVars where
  query := ndbinfoTcTimeTrackQuery
  dests := [.uint64, .uint64, .uint64, .uint64, .uint64, .uint64, .uint64]
  assign := fun v ⟨nodeID, upperBound, scans, transactions, readKeyOps, writeKeyOps, indexKeyOps, ()⟩ ↦
    { v with nodeID, upperBound, scans, transactions, readKeyOps, writeKeyOps, indexKeyOps }
  labels v := [.formatUint v.nodeID, .formatUint v.upperBound]
  body :=
    [.send (ndbinfoTcTimeTrackScansDesc k) .gauge fun v ↦ .ofUInt64 v.scans,
     .send (ndbinfoTcTimeTrackTransactionsDesc k) .gauge fun v ↦ .ofUInt64 v.transactions,
     .send (ndbinfoTcTimeTrackReadKeyDesc k) .gauge fun v ↦ .ofUInt64 v.readKeyOps,
     .send (ndbinfoTcTimeTrackWriteKeyDesc k) .gauge fun v ↦ .ofUInt64 v.writeKeyOps,
     .send (ndbinfoTcTimeTrackIndexKeyDesc k) .gauge fun v ↦ .ofUInt64 v.indexKeyOps]

/-- `ScrapeNdbinfoTcTimeTrack`. -/
def scrapeNdbinfoTcTimeTrack (k : PackageConsts) : Scraper where
  name := "ndbinfo.tc_time_track_stats"
  Vars := TcTimeTrackVars
  vars := {}
  loops := [ndbinfoTcTimeTrackLoop k]

theorem ndbinfoTcTimeTrackLoop_wellFormed (k : PackageConsts) :
    (ndbinfoTcTimeTrackLoop k).WellFormed k [true, true] where
  fresh _ _ _ := ⟨rfl, fun _ ↦ rfl⟩
  kinds _ := rfl
  arity := by simp [ndbinfoTcTimeTrackLoop, Stmt.desc, ndbinfoTcTimeTrackScansDesc,
    ndbinfoTcTimeTrackTransactionsDesc, ndbinfoTcTimeTrackReadKeyDesc,
    ndbinfoTcTimeTrackWriteKeyDesc, ndbinfoTcTimeTrackIndexKeyDesc]
  strings := by simp [ndbinfoTcTimeTrackLoop]
  distinct := by simp [ndbinfoTcTimeTrackLoop, Stmt.desc, ndbinfoTcTimeTrackScansDesc,
    ndbinfoTcTimeTrackTransactionsDesc, ndbinfoTcTimeTrackReadKeyDesc,
    ndbinfoTcTimeTrackWriteKeyDesc, ndbinfoTcTimeTrackIndexKeyDesc]
  valid hk := by
    simp (disch := decide) [ndbinfoTcTimeTrackLoop, Stmt.desc, ndbinfoTcTimeTrackScansDesc,
      ndbinfoTcTimeTrackTransactionsDesc, ndbinfoTcTimeTrackReadKeyDesc,
      ndbinfoTcTimeTrackWriteKeyDesc, ndbinfoTcTimeTrackIndexKeyDesc, err_ndbDesc hk]

/-! ### `ScrapeNdbinfoLogspaces` -/

def ndbinfoLogspacesQuery : String :=
  "\n\tSELECT node_id, log_type, log_part, total, used \n\tFROM ndbinfo.logspaces;\n\t"

def ndbinfoLogspacesUsedDesc (k : PackageConsts) : Desc :=
  ⟨buildFQName "ndb" k.ndbinfo "logspaces_used",
    "Space used by each log",
    ["nodeID", "logType", "logPart"]⟩

def ndbinfoLogspacesTotalDesc (k : PackageConsts) : Desc :=
  ⟨buildFQName "ndb" k.ndbinfo "logspaces_total",
    "Total space available for each log",
    ["nodeID", "logType", "logPart"]⟩

/-- The variables of `ScrapeNdbinfoLogspaces.Scrape`, at their zero values. -/
structure LogspacesVars where
  nodeID : UInt64 := 0
  logPart : UInt64 := 0
  used : UInt64 := 0
  total : UInt64 := 0
  logType : GoString := []

/-- The loop of `ScrapeNdbinfoLogspaces.Scrape`. -/
def ndbinfoLogspacesLoop (k : PackageConsts) : Loop LogspacesVars where
  query := ndbinfoLogspacesQuery
  dests := [.uint64, .string, .uint64, .uint64, .uint64]
  assign := fun v ⟨nodeID, logType, logPart, total, used, ()⟩ ↦
    { v with nodeID, logType, logPart, total, used }
  labels v := [.formatUint v.nodeID, .string v.logType, .formatUint v.logPart]
  body :=
    [.send (ndbinfoLogspacesUsedDesc k) .gauge fun v ↦ .ofUInt64 v.used,
     .send (ndbinfoLogspacesTotalDesc k) .gauge fun v ↦ .ofUInt64 v.total]

/-- `ScrapeNdbinfoLogspaces`. -/
def scrapeNdbinfoLogspaces (k : PackageConsts) : Scraper where
  name := "ndbinfo.logspaces"
  Vars := LogspacesVars
  vars := {}
  loops := [ndbinfoLogspacesLoop k]

theorem ndbinfoLogspacesLoop_wellFormed (k : PackageConsts) :
    (ndbinfoLogspacesLoop k).WellFormed k [true, false, true] where
  fresh _ _ _ := ⟨rfl, fun _ ↦ rfl⟩
  kinds _ := rfl
  arity := by simp [ndbinfoLogspacesLoop, Stmt.desc, ndbinfoLogspacesUsedDesc,
    ndbinfoLogspacesTotalDesc]
  strings := by
    rintro v ⟨nodeID, logType, logPart, total, used, ⟨⟩⟩ s hs
    simp [ndbinfoLogspacesLoop] at hs
    subst hs; simp [stringsOf]
  distinct := by simp [ndbinfoLogspacesLoop, Stmt.desc, ndbinfoLogspacesUsedDesc,
    ndbinfoLogspacesTotalDesc]
  valid hk := by
    simp (disch := decide) [ndbinfoLogspacesLoop, Stmt.desc, ndbinfoLogspacesUsedDesc,
      ndbinfoLogspacesTotalDesc, err_ndbDesc hk]

/-! ### `ScrapeNdbinfoLogbuffers` -/

def ndbinfoLogbuffersQuery : String :=
  "\n\tSELECT node_id, log_type, log_part, total, used \n\tFROM ndbinfo.logbuffers;\n\t"

def ndbinfoLogbuffersUsedDesc (k : PackageConsts) : Desc :=
  ⟨buildFQName "ndb" k.ndbinfo "logbuffers_used",
    "Buffer space used by each log",
    ["nodeID", "logType", "logPart"]⟩

def ndbinfoLogbuffersTotalDesc (k : PackageConsts) : Desc :=
  ⟨buildFQName "ndb" k.ndbinfo "logbuffers_total",
    "Total buffer space available for each log",
    ["nodeID", "logType", "logPart"]⟩

/-- The variables of `ScrapeNdbinfoLogbuffers.Scrape`, at their zero values. -/
structure LogbuffersVars where
  nodeID : UInt64 := 0
  logPart : UInt64 := 0
  used : UInt64 := 0
  total : UInt64 := 0
  logType : GoString := []

/-- The loop of `ScrapeNdbinfoLogbuffers.Scrape`. -/
def ndbinfoLogbuffersLoop (k : PackageConsts) : Loop LogbuffersVars where
  query := ndbinfoLogbuffersQuery
  dests := [.uint64, .string, .uint64, .uint64, .uint64]
  assign := fun v ⟨nodeID, logType, logPart, total, used, ()⟩ ↦
    { v with nodeID, logType, logPart, total, used }
  labels v := [.formatUint v.nodeID, .string v.logType, .formatUint v.logPart]
  body :=
    [.send (ndbinfoLogbuffersUsedDesc k) .gauge fun v ↦ .ofUInt64 v.used,
     .send (ndbinfoLogbuffersTotalDesc k) .gauge fun v ↦ .ofUInt64 v.total]

/-- `ScrapeNdbinfoLogbuffers`. -/
def scrapeNdbinfoLogbuffers (k : PackageConsts) : Scraper where
  name := "ndbinfo.logbuffers"
  Vars := LogbuffersVars
  vars := {}
  loops := [ndbinfoLogbuffersLoop k]

theorem ndbinfoLogbuffersLoop_wellFormed (k : PackageConsts) :
    (ndbinfoLogbuffersLoop k).WellFormed k [true, false, true] where
  fresh _ _ _ := ⟨rfl, fun _ ↦ rfl⟩
  kinds _ := rfl
  arity := by simp [ndbinfoLogbuffersLoop, Stmt.desc, ndbinfoLogbuffersUsedDesc,
    ndbinfoLogbuffersTotalDesc]
  strings := by
    rintro v ⟨nodeID, logType, logPart, total, used, ⟨⟩⟩ s hs
    simp [ndbinfoLogbuffersLoop] at hs
    subst hs; simp [stringsOf]
  distinct := by simp [ndbinfoLogbuffersLoop, Stmt.desc, ndbinfoLogbuffersUsedDesc,
    ndbinfoLogbuffersTotalDesc]
  valid hk := by
    simp (disch := decide) [ndbinfoLogbuffersLoop, Stmt.desc, ndbinfoLogbuffersUsedDesc,
      ndbinfoLogbuffersTotalDesc, err_ndbDesc hk]

end Collector

import MysqldExporterNdb.Collector.Package

/-!
# The collectors of `ndbinfo`'s transporter and thread tables

`ScrapeNdbinfoTransporters` reports each connection between two nodes. `ScrapeNdbinfoThreadstat`
reports each thread of each node, and is the one collector of the package whose body does more
than send: it reads three counters as strings and parses them with `strconv.ParseFloat`, each just
before its own send, so a row whose second or third counter does not parse has already sent the
samples before it.
-/

open Sql Prometheus Scrape

namespace Collector

/-! ### `ScrapeNdbinfoTransporters` -/

def ndbinfoTransportersQuery : String :=
  "\n\tSELECT  node_id, remote_node_id, bytes_sent, bytes_received,\n\tconnect_count, overloaded, overload_count, slowdown, slowdown_count\n\tFROM ndbinfo.transporters;\n\t"

def ndbinfoTransportersBytesSentDesc (k : PackageConsts) : Desc :=
  ⟨buildFQName "ndb" k.ndbinfo "transporters_bytes_sent",
    "Number of bytes sent using this connection",
    ["nodeID", "remoteNodeID"]⟩

def ndbinfoTransportersBytesReceivedDesc (k : PackageConsts) : Desc :=
  ⟨buildFQName "ndb" k.ndbinfo "transporters_bytes_received",
    "Number of bytes received using this connection",
    ["nodeID", "remoteNodeID"]⟩

def ndbinfoTransportersConnectionCountDesc (k : PackageConsts) : Desc :=
  ⟨buildFQName "ndb" k.ndbinfo "transporters_connection_count",
    "Number of times connection established on this transporter",
    ["nodeID", "remoteNodeID"]⟩

def ndbinfoTransportersOverloadedDesc (k : PackageConsts) : Desc :=
  ⟨buildFQName "ndb" k.ndbinfo "transporters_overloaded",
    "1 if this transporter is currently overloaded, otherwise 0",
    ["nodeID", "remoteNodeID"]⟩

def ndbinfoTransportersOverloadedCountDesc (k : PackageConsts) : Desc :=
  ⟨buildFQName "ndb" k.ndbinfo "transporters_overloaded_count",
    "Number of times this transporter has entered overload state since connecting",
    ["nodeID", "remoteNodeID"]⟩

def ndbinfoTransportersSlowdownDesc (k : PackageConsts) : Desc :=
  ⟨buildFQName "ndb" k.ndbinfo "transporters_slowdown",
    "1 if this transporter is in slowdown state, otherwise 0",
    ["nodeID", "remoteNodeID"]⟩

def ndbinfoTransportersSlowdownCountDesc (k : PackageConsts) : Desc :=
  ⟨buildFQName "ndb" k.ndbinfo "transporters_slowdown_count",
    "Number of times this transporter has entered slowdown state since connecting",
    ["nodeID", "remoteNodeID"]⟩

/-- The variables of `ScrapeNdbinfoTransporters.Scrape`, at their zero values. -/
structure TransportersVars where
  nodeID : UInt64 := 0
  remoteNodeID : UInt64 := 0
  bytesSent : UInt64 := 0
  bytesReceived : UInt64 := 0
  connectionCount : UInt64 := 0
  overloaded : UInt64 := 0
  overloadedCount : UInt64 := 0
  slowdown : UInt64 := 0
  slowdownCount : UInt64 := 0

/-- The loop of `ScrapeNdbinfoTransporters.Scrape`. -/
def ndbinfoTransportersLoop (k : PackageConsts) : Loop TransportersVars where
  query := ndbinfoTransportersQuery
  dests := [.uint64, .uint64, .uint64, .uint64, .uint64, .uint64, .uint64, .uint64, .uint64]
  assign := fun v ⟨nodeID, remoteNodeID, bytesSent, bytesReceived, connectionCount, overloaded, overloadedCount, slowdown, slowdownCount, ()⟩ ↦
    { v with nodeID, remoteNodeID, bytesSent, bytesReceived, connectionCount, overloaded, overloadedCount, slowdown, slowdownCount }
  labels v := [.formatUint v.nodeID, .formatUint v.remoteNodeID]
  body :=
    [.send (ndbinfoTransportersBytesSentDesc k) .counter fun v ↦ .ofUInt64 v.bytesSent,
     .send (ndbinfoTransportersBytesReceivedDesc k) .counter fun v ↦ .ofUInt64 v.bytesReceived,
     .send (ndbinfoTransportersConnectionCountDesc k) .counter fun v ↦ .ofUInt64 v.connectionCount,
     .send (ndbinfoTransportersOverloadedDesc k) .gauge fun v ↦ .ofUInt64 v.overloaded,
     .send (ndbinfoTransportersOverloadedCountDesc k) .counter fun v ↦ .ofUInt64 v.overloadedCount,
     .send (ndbinfoTransportersSlowdownDesc k) .counter fun v ↦ .ofUInt64 v.slowdown,
     .send (ndbinfoTransportersSlowdownCountDesc k) .counter fun v ↦ .ofUInt64 v.slowdownCount]

/-- `ScrapeNdbinfoTransporters`. -/
def scrapeNdbinfoTransporters (k : PackageConsts) : Scraper where
  name := "ndbinfo.transporters"
  Vars := TransportersVars
  vars := {}
  loops := [ndbinfoTransportersLoop k]

theorem ndbinfoTransportersLoop_wellFormed (k : PackageConsts) :
    (ndbinfoTransportersLoop k).WellFormed k [true, true] where
  fresh _ _ _ := ⟨rfl, fun _ ↦ rfl⟩
  kinds _ := rfl
  arity := by simp [ndbinfoTransportersLoop, Stmt.desc, ndbinfoTransportersBytesSentDesc,
    ndbinfoTransportersBytesReceivedDesc, ndbinfoTransportersConnectionCountDesc,
    ndbinfoTransportersOverloadedDesc, ndbinfoTransportersOverloadedCountDesc,
    ndbinfoTransportersSlowdownDesc, ndbinfoTransportersSlowdownCountDesc]
  strings := by simp [ndbinfoTransportersLoop]
  distinct := by simp [ndbinfoTransportersLoop, Stmt.desc, ndbinfoTransportersBytesSentDesc,
    ndbinfoTransportersBytesReceivedDesc, ndbinfoTransportersConnectionCountDesc,
    ndbinfoTransportersOverloadedDesc, ndbinfoTransportersOverloadedCountDesc,
    ndbinfoTransportersSlowdownDesc, ndbinfoTransportersSlowdownCountDesc]
  valid hk := by
    simp (disch := decide) [ndbinfoTransportersLoop, Stmt.desc, ndbinfoTransportersBytesSentDesc,
      ndbinfoTransportersBytesReceivedDesc, ndbinfoTransportersConnectionCountDesc,
      ndbinfoTransportersOverloadedDesc, ndbinfoTransportersOverloadedCountDesc,
      ndbinfoTransportersSlowdownDesc, ndbinfoTransportersSlowdownCountDesc, err_ndbDesc hk]

/-! ### `ScrapeNdbinfoThreadstat` -/

def ndbinfoThreadstatQuery : String :=
  "\n\tSELECT node_id, thr_no, thr_nm, c_loop, c_exec, c_wait, os_tid, os_now,\n\t\t   os_ru_utime, os_ru_stime, os_ru_minflt, os_ru_majflt, os_ru_nvcsw, os_ru_nivcsw\n\tFROM ndbinfo.threadstat;\n\t"

def ndbinfoThreadstatLoopsDesc (k : PackageConsts) : Desc :=
  ⟨buildFQName "ndb" k.ndbinfo "threadstat_loop",
    "Number of lops in the main loop for each thread on each node - ms",
    ["nodeID", "threadNO", "threadName"]⟩

def ndbinfoThreadstatExecDesc (k : PackageConsts) : Desc :=
  ⟨buildFQName "ndb" k.ndbinfo "threadstat_exec",
    "Number of signals executed for each thread on each node - ms",
    ["nodeID", "threadNO", "threadName"]⟩

def ndbinfoThreadstatWaitDesc (k : PackageConsts) : Desc :=
  ⟨buildFQName "ndb" k.ndbinfo "threadstat_wait",
    "Number of times waiting for additional input for each thread on each node - ms",
    ["nodeID", "threadNO", "threadName"]⟩

def ndbinfoThreadstatOSTimeDesc (k : PackageConsts) : Desc :=
  ⟨buildFQName "ndb" k.ndbinfo "threadstat_os_time",
    "OS time for each thread on each node - ms",
    ["nodeID", "threadNO", "threadName"]⟩

def ndbinfoThreadstatOSUserTimeDesc (k : PackageConsts) : Desc :=
  ⟨buildFQName "ndb" k.ndbinfo "threadstat_user_time",
    "OS user time for each thread on each node - µs",
    ["nodeID", "threadNO", "threadName"]⟩

def ndbinfoThreadstatOSSystemTimeDesc (k : PackageConsts) : Desc :=
  ⟨buildFQName "ndb" k.ndbinfo "threadstat_system_time",
    "OS system time for each thread on each node - µs",
    ["nodeID", "threadNO", "threadName"]⟩

def ndbinfoThreadstatSoftPageFaultsDesc (k : PackageConsts) : Desc :=
  ⟨buildFQName "ndb" k.ndbinfo "threadstat_soft_pagfault",
    "Soft page faults for each thread on each node",
    ["nodeID", "threadNO", "threadName"]⟩

def ndbinfoThreadstatHardPageFaultsDesc (k : PackageConsts) : Desc :=
  ⟨buildFQName "ndb" k.ndbinfo "threadstat_hard_pagfault",
    "Hard page faults for each thread on each node",
    ["nodeID", "threadNO", "threadName"]⟩

def ndbinfoThreadstatVoluntaryCtxSwitchDesc (k : PackageConsts) : Desc :=
  ⟨buildFQName "ndb" k.ndbinfo "threadstat_ctx_switch_voluntary",
    "Voluntary context switches for each thread on each node",
    ["nodeID", "threadNO", "threadName"]⟩

def ndbinfoThreadstatInvoluntaryCtxSwitchDesc (k : PackageConsts) : Desc :=
  ⟨buildFQName "ndb" k.ndbinfo "threadstat_ctx_switch_involuntary",
    "Involuntary context switches for each thread on each node",
    ["nodeID", "threadNO", "threadName"]⟩

/-- The variables of `ScrapeNdbinfoThreadstat.Scrape`, at their zero values. -/
structure ThreadstatVars where
  nodeID : UInt64 := 0
  threadNO : UInt64 := 0
  OSthreadNO : UInt64 := 0
  OSTime : UInt64 := 0
  OSUserTime : UInt64 := 0
  OSSystemTime : UInt64 := 0
  softPageFaults : UInt64 := 0
  hardPageFaults : UInt64 := 0
  voluntaryCtxSwitch : UInt64 := 0
  involuntaryContextSwitch : UInt64 := 0
  threadName : GoString := []
  loopCounter : GoString := []
  signalCounter : GoString := []
  waitingCounter : GoString := []

/-- The loop of `ScrapeNdbinfoThreadstat.Scrape`. -/
def ndbinfoThreadstatLoop (k : PackageConsts) : Loop ThreadstatVars where
  query := ndbinfoThreadstatQuery
  dests := [.uint64, .uint64, .string, .string, .string, .string, .uint64, .uint64, .uint64, .uint64, .uint64, .uint64, .uint64, .uint64]
  assign := fun v ⟨nodeID, threadNO, threadName, loopCounter, signalCounter, waitingCounter, OSthreadNO, OSTime, OSUserTime, OSSystemTime, softPageFaults, hardPageFaults, voluntaryCtxSwitch, involuntaryContextSwitch, ()⟩ ↦
    { v with nodeID, threadNO, threadName, loopCounter, signalCounter, waitingCounter, OSthreadNO, OSTime, OSUserTime, OSSystemTime, softPageFaults, hardPageFaults, voluntaryCtxSwitch, involuntaryContextSwitch }
  labels v := [.formatUint v.nodeID, .formatUint v.threadNO, .string v.threadName]
  body :=
    [.parseSend (fun v ↦ v.loopCounter) (ndbinfoThreadstatLoopsDesc k) .counter,
     .parseSend (fun v ↦ v.signalCounter) (ndbinfoThreadstatExecDesc k) .counter,
     .parseSend (fun v ↦ v.waitingCounter) (ndbinfoThreadstatWaitDesc k) .counter,
     .send (ndbinfoThreadstatOSTimeDesc k) .counter fun v ↦ .ofUInt64 v.OSTime,
     .send (ndbinfoThreadstatOSUserTimeDesc k) .counter fun v ↦ .ofUInt64 v.OSUserTime,
     .send (ndbinfoThreadstatOSSystemTimeDesc k) .counter fun v ↦ .ofUInt64 v.OSSystemTime,
     .send (ndbinfoThreadstatSoftPageFaultsDesc k) .counter fun v ↦ .ofUInt64 v.softPageFaults,
     .send (ndbinfoThreadstatHardPageFaultsDesc k) .counter fun v ↦ .ofUInt64 v.hardPageFaults,
     .send (ndbinfoThreadstatVoluntaryCtxSwitchDesc k) .counter fun v ↦ .ofUInt64 v.voluntaryCtxSwitch,
     .send (ndbinfoThreadstatInvoluntaryCtxSwitchDesc k) .counter fun v ↦
       .ofUInt64 v.involuntaryContextSwitch]

/-- `ScrapeNdbinfoThreadstat`. -/
def scrapeNdbinfoThreadstat (k : PackageConsts) : Scraper where
  name := "ndbinfo.threadstat"
  Vars := ThreadstatVars
  vars := {}
  loops := [ndbinfoThreadstatLoop k]

theorem ndbinfoThreadstatLoop_wellFormed (k : PackageConsts) :
    (ndbinfoThreadstatLoop k).WellFormed k [true, true, false] where
  fresh _ _ _ := ⟨rfl, fun _ ↦ rfl⟩
  kinds _ := rfl
  arity := by simp [ndbinfoThreadstatLoop, Stmt.desc, ndbinfoThreadstatLoopsDesc,
    ndbinfoThreadstatExecDesc, ndbinfoThreadstatWaitDesc, ndbinfoThreadstatOSTimeDesc,
    ndbinfoThreadstatOSUserTimeDesc, ndbinfoThreadstatOSSystemTimeDesc,
    ndbinfoThreadstatSoftPageFaultsDesc, ndbinfoThreadstatHardPageFaultsDesc,
    ndbinfoThreadstatVoluntaryCtxSwitchDesc, ndbinfoThreadstatInvoluntaryCtxSwitchDesc]
  strings := by
    rintro v ⟨nodeID, threadNO, threadName, loopCounter, signalCounter, waitingCounter, OSthreadNO, OSTime, OSUserTime, OSSystemTime, softPageFaults, hardPageFaults, voluntaryCtxSwitch, involuntaryContextSwitch, ⟨⟩⟩ s hs
    simp [ndbinfoThreadstatLoop] at hs
    subst hs; simp [stringsOf]
  distinct := by simp [ndbinfoThreadstatLoop, Stmt.desc, ndbinfoThreadstatLoopsDesc,
    ndbinfoThreadstatExecDesc, ndbinfoThreadstatWaitDesc, ndbinfoThreadstatOSTimeDesc,
    ndbinfoThreadstatOSUserTimeDesc, ndbinfoThreadstatOSSystemTimeDesc,
    ndbinfoThreadstatSoftPageFaultsDesc, ndbinfoThreadstatHardPageFaultsDesc,
    ndbinfoThreadstatVoluntaryCtxSwitchDesc, ndbinfoThreadstatInvoluntaryCtxSwitchDesc]
  valid hk := by
    simp (disch := decide) [ndbinfoThreadstatLoop, Stmt.desc, ndbinfoThreadstatLoopsDesc,
      ndbinfoThreadstatExecDesc, ndbinfoThreadstatWaitDesc, ndbinfoThreadstatOSTimeDesc,
      ndbinfoThreadstatOSUserTimeDesc, ndbinfoThreadstatOSSystemTimeDesc,
      ndbinfoThreadstatSoftPageFaultsDesc, ndbinfoThreadstatHardPageFaultsDesc,
      ndbinfoThreadstatVoluntaryCtxSwitchDesc, ndbinfoThreadstatInvoluntaryCtxSwitchDesc,
      err_ndbDesc hk]

end Collector

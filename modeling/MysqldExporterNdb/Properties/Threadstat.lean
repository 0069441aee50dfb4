import MysqldExporterNdb.Properties.Rows

/-!
# `ScrapeNdbinfoThreadstat` on counters the server holds as numbers

`ScrapeNdbinfoThreadstat` is the one collector that reads columns as text and parses them: it
scans `c_loop`, `c_exec` and `c_wait` into strings and calls `strconv.ParseFloat` on each before
sending it, so a text that does not parse stops the scrape after the samples sent before it
(`threadstat_sends_partial_group`).

A server holding the counters as `uint64` sends them in decimal, which `ParseFloat` reads back as
`float64` of the counter (`parseFloat_formatUint`): the same double as the collector's other
conversions give. From such a server the collector sends each row's ten samples,
in the order of the code, and returns `nil` (`threadstat_scrape_eq`); `os_tid` is scanned and
never sent.
-/

open Sql Prometheus Scrape Emit Strconv

namespace Collector

/-- The columns of a row of `ndbinfo.threadstat`, every counter a number. -/
structure ThreadstatRecord where
  nodeID : UInt64
  thrNo : UInt64
  thrNm : GoString
  cLoop : UInt64
  cExec : UInt64
  cWait : UInt64
  osTid : UInt64
  osNow : UInt64
  osRuUtime : UInt64
  osRuStime : UInt64
  osRuMinflt : UInt64
  osRuMajflt : UInt64
  osRuNvcsw : UInt64
  osRuNivcsw : UInt64

/-- The row a server sends for it: the thread name as it is, every number in decimal. -/
def threadstatRow (x : ThreadstatRecord) : Row :=
  [some (formatUint x.nodeID), some (formatUint x.thrNo), some x.thrNm,
    some (formatUint x.cLoop), some (formatUint x.cExec), some (formatUint x.cWait),
    some (formatUint x.osTid), some (formatUint x.osNow), some (formatUint x.osRuUtime),
    some (formatUint x.osRuStime), some (formatUint x.osRuMinflt),
    some (formatUint x.osRuMajflt), some (formatUint x.osRuNvcsw),
    some (formatUint x.osRuNivcsw)]

/-- `Scan` fills the three counters read as strings with their decimal text. -/
theorem scan_threadstatRow (k : PackageConsts) (x : ThreadstatRecord) :
    scan (ndbinfoThreadstatLoop k).dests (threadstatRow x) =
      .ok (x.nodeID, x.thrNo, x.thrNm, formatUint x.cLoop, formatUint x.cExec,
        formatUint x.cWait, x.osTid, x.osNow, x.osRuUtime, x.osRuStime, x.osRuMinflt,
        x.osRuMajflt, x.osRuNvcsw, x.osRuNivcsw, ()) := by
  rw [scan_of_length_eq rfl]
  simp only [ndbinfoThreadstatLoop, threadstatRow,
    scanColumns_cons_of_ok (convertAssign_formatUint _),
    scanColumns_cons_of_ok (convertAssign_string _), scanColumns_nil]
  rfl

/-- What `ScrapeNdbinfoThreadstat` is to send for a row: each counter it reads, in the order of
the code, labelled with the node, the thread number and the thread name. -/
def threadstatSamples (k : PackageConsts) (x : ThreadstatRecord) : List Metric :=
  [(ndbinfoThreadstatLoopsDesc k, x.cLoop), (ndbinfoThreadstatExecDesc k, x.cExec),
    (ndbinfoThreadstatWaitDesc k, x.cWait), (ndbinfoThreadstatOSTimeDesc k, x.osNow),
    (ndbinfoThreadstatOSUserTimeDesc k, x.osRuUtime),
    (ndbinfoThreadstatOSSystemTimeDesc k, x.osRuStime),
    (ndbinfoThreadstatSoftPageFaultsDesc k, x.osRuMinflt),
    (ndbinfoThreadstatHardPageFaultsDesc k, x.osRuMajflt),
    (ndbinfoThreadstatVoluntaryCtxSwitchDesc k, x.osRuNvcsw),
    (ndbinfoThreadstatInvoluntaryCtxSwitchDesc k, x.osRuNivcsw)].map fun (d, n) ↦
      ⟨d, .counter, .ofUInt64 n, [formatUint x.nodeID, formatUint x.thrNo, x.thrNm]⟩

/-- **A row of numbers goes through**: every parse succeeds, and the row sends its ten
samples. -/
theorem threadstat_row {k : PackageConsts} (hk : k.Valid) (v : ThreadstatVars)
    (x : ThreadstatRecord) (hname : Utf8.validString x.thrNm = true) :
    ((ndbinfoThreadstatLoop k).iterate v (threadstatRow x)).sent = threadstatSamples k x ∧
      ((ndbinfoThreadstatLoop k).iterate v (threadstatRow x)).result.isOk := by
  have hu : ∀ s ∈ [formatUint x.nodeID, formatUint x.thrNo, x.thrNm],
      Utf8.validString s = true := by
    simp [validString_formatUint, hname]
  have hv := (ndbinfoThreadstatLoop_wellFormed k).valid hk
  simp only [ndbinfoThreadstatLoop, List.forall_mem_cons, Stmt.desc, List.not_mem_nil,
    false_imp_iff, implies_true, and_true] at hv
  obtain ⟨h₁, h₂, h₃, h₄, h₅, h₆, h₇, h₈, h₉, h₁₀⟩ := hv
  rw [Loop.iterate_eq, scan_threadstatRow]
  simp only [ndbinfoThreadstatLoop, runAll_cons, runAll_nil, Stmt.run, Loop.labelValues,
    List.map, Label.value, parseFloatErr, parseFloat_formatUint, Except.mapError, check_ok,
    pure_bind_eq, emitMetric_eq h₁ rfl hu, emitMetric_eq h₂ rfl hu, emitMetric_eq h₃ rfl hu,
    emitMetric_eq h₄ rfl hu, emitMetric_eq h₅ rfl hu, emitMetric_eq h₆ rfl hu,
    emitMetric_eq h₇ rfl hu, emitMetric_eq h₈ rfl hu, emitMetric_eq h₉ rfl hu,
    emitMetric_eq h₁₀ rfl hu, ok_bind]
  exact ⟨rfl, rfl⟩

/-- **What `ScrapeNdbinfoThreadstat` sends** from a server whose threads are `xs`, every counter
a number and every thread name UTF-8: each thread's ten samples, in order; and it returns
`nil`. -/
theorem threadstat_scrape_eq {k : PackageConsts} (hk : k.Valid) {db : Db}
    {xs : List ThreadstatRecord} {en : Ending}
    (hq : db ndbinfoThreadstatQuery = .rows (xs.map threadstatRow) en)
    (hu : ∀ x ∈ xs, Utf8.validString x.thrNm = true) :
    (scrapeNdbinfoThreadstat k).scrape db = ⟨xs.flatMap (threadstatSamples k), .ok ()⟩ := by
  have hq' : db (ndbinfoThreadstatLoop k).query = _ := hq
  rw [Scraper.scrape_of_complete (S := scrapeNdbinfoThreadstat k)]
  · simp only [rowGroups, resultRows, scrapeNdbinfoThreadstat, List.flatMap_cons,
      List.flatMap_nil, List.append_nil, hq', List.flatMap_map]
    rw [List.flatMap_congr fun x hx ↦ (threadstat_row hk {} x (hu x hx)).1]
  · rintro l (_ | ⟨_, ⟨⟩⟩)
    exact (ndbinfoThreadstatLoop_wellFormed k).fresh
  · rintro l (_ | ⟨_, ⟨⟩⟩)
    exact ⟨_, _, hq', List.forall_mem_map.2 fun x hx ↦ (threadstat_row hk _ x (hu x hx)).2⟩

/-- A server whose one thread, `main` of node 1, has counted 10 loops, 20 signals and 30 waits. -/
def threadstatDb : Db := fun _ ↦
  .rows [threadstatRow ⟨1, 0, GoString.ofString "main", 10, 20, 30, 4242, 5, 6, 7, 8, 9, 10, 11⟩]
    .eof

theorem threadstat_scrape_eq_threadstatDb :
    (scrapeNdbinfoThreadstat .sample).scrape threadstatDb =
      ⟨threadstatSamples .sample ⟨1, 0, GoString.ofString "main", 10, 20, 30, 4242, 5, 6, 7, 8,
        9, 10, 11⟩, .ok ()⟩ :=
  @threadstat_scrape_eq _ PackageConsts.sample_valid threadstatDb
    [⟨1, 0, GoString.ofString "main", 10, 20, 30, 4242, 5, 6, 7, 8, 9, 10, 11⟩] .eof rfl
    (by decide)

end Collector

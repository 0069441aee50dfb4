import Mathlib.Tactic.NormNum
import MysqldExporterNdb.Properties.Returns

/-!
# The memory scrapers' arithmetic

`ScrapeNdbinfoResources` and `ScrapeNdbinfoFreeMemory` read the same page counts and report them
in bytes, but not with the same arithmetic.

* `ScrapeNdbinfoFreeMemory` clamps the difference at zero in `uint64`, converts it to `float64`,
  and multiplies there: a row sends `float64(max(0, reserved - used)) · 32768` bytes
  (`freeMemory_row`), and likewise with 256-byte pages for the long message buffer. The product
  is exact, the page size being a power of two; below `2 ^ 53` free pages the conversion is too
  (`nearestFloat64_of_lt`), and the row sends `max(0, reserved · 32768 - used · 32768)` bytes.
* `ScrapeNdbinfoResources` multiplies in `uint64` and converts the product: a row sends
  `float64(reserved · 32768 mod 2^64)` (`resources_row`), the byte count only while
  `reserved < 2^49` pages (`resources_reserved_wraps`), and `float64(total_pages · 256 mod 2^64)`
  for the long message buffer.

The rows are those a server sends for page counts and node ids it holds as `uint64`: each number
in decimal (`resourcesRow`, `longSignalRow`), which `Scan` reads back exactly. From a server whose
rows are all of that form, `resources_scrape_eq` and `freeMemory_scrape_eq` give everything each
collector sends.
-/

open Sql Prometheus Scrape Emit Strconv

namespace Collector

/-! ### Rows of page counts -/

/-- The node, name and page counts of a row of `ndbinfo.resources`. -/
structure ResourceRecord where
  nodeID : UInt64
  name : GoString
  reserved : UInt64
  used : UInt64

/-- The node and page counts of a `Long message buffer` row of `ndbinfo.memoryusage`. -/
structure LongSignalRecord where
  nodeID : UInt64
  usedPages : UInt64
  totalPages : UInt64

/-- A row of `ndbinfo.resources`: the node, the resource name, and the reserved and used page
counts, as the server sends them. -/
def resourcesRow (nodeID : UInt64) (name : GoString) (reserved used : UInt64) : Row :=
  [some (formatUint nodeID), some name, some (formatUint reserved), some (formatUint used)]

/-- A `Long message buffer` row of `ndbinfo.memoryusage`: the node, and the used and total page
counts. -/
def longSignalRow (nodeID usedPages totalPages : UInt64) : Row :=
  [some (formatUint nodeID), some (formatUint usedPages), some (formatUint totalPages)]

theorem scan_resourcesRow (nodeID : UInt64) (name : GoString) (reserved used : UInt64) :
    scan [.uint64, .string, .uint64, .uint64] (resourcesRow nodeID name reserved used) =
      .ok (nodeID, name, reserved, used, ()) := by
  rw [scan_of_length_eq rfl, resourcesRow, scanColumns_cons_of_ok (convertAssign_formatUint _),
    scanColumns_cons_of_ok (convertAssign_string _),
    scanColumns_cons_of_ok (convertAssign_formatUint _),
    scanColumns_cons_of_ok (convertAssign_formatUint _)]
  rfl

theorem scan_longSignalRow (nodeID usedPages totalPages : UInt64) :
    scan [.uint64, .uint64, .uint64] (longSignalRow nodeID usedPages totalPages) =
      .ok (nodeID, usedPages, totalPages, ()) := by
  rw [scan_of_length_eq rfl, longSignalRow, scanColumns_cons_of_ok (convertAssign_formatUint _),
    scanColumns_cons_of_ok (convertAssign_formatUint _),
    scanColumns_cons_of_ok (convertAssign_formatUint _)]
  rfl

/-- `free = reserved - used`, clamped at zero in `uint64`, is the difference cut off at zero. -/
theorem clampSub_toNat (a b : UInt64) :
    (if a ≥ b then a - b else 0 : UInt64).toNat = a.toNat - b.toNat := by
  split_ifs with h
  · exact UInt64.toNat_sub_of_le a b h
  · have h' : ¬ b.toNat ≤ a.toNat := h
    show 0 = _
    omega

theorem validString_nodeLabels (nodeID : UInt64) {name : GoString}
    (hname : Utf8.validString name = true) :
    ∀ s ∈ [formatUint nodeID, name], Utf8.validString s = true := by
  simp [validString_formatUint, hname]

theorem validString_resourcesRow (nodeID : UInt64) {name : GoString} (reserved used : UInt64)
    (hname : Utf8.validString name = true) :
    ∀ s, some s ∈ resourcesRow nodeID name reserved used → Utf8.validString s = true := by
  simp only [resourcesRow, List.mem_cons, Option.some.injEq, List.mem_singleton,
    List.not_mem_nil, or_false]
  rintro s (rfl | rfl | rfl | rfl) <;> simp [validString_formatUint, hname]

theorem validString_longSignalRow (nodeID usedPages totalPages : UInt64) :
    ∀ s, some s ∈ longSignalRow nodeID usedPages totalPages → Utf8.validString s = true := by
  simp only [longSignalRow, List.mem_cons, Option.some.injEq, List.mem_singleton,
    List.not_mem_nil, or_false]
  rintro s (rfl | rfl | rfl) <;> exact validString_formatUint _

/-! ### What each row is to send -/

/-- What `ScrapeNdbinfoResources` sends for a resource: its reserved and used pages in bytes,
multiplied in `uint64`, as the nearest `float64`. -/
def resourcesSamples (k : PackageConsts) (x : ResourceRecord) : List Metric :=
  [⟨ndbinfoResourcesReservedDesc k, .gauge,
      .num (nearestFloat64 (x.reserved.toNat * 32768 % 2 ^ 64) 1), [formatUint x.nodeID, x.name]⟩,
    ⟨ndbinfoResourcesUsedDesc k, .gauge,
      .num (nearestFloat64 (x.used.toNat * 32768 % 2 ^ 64) 1), [formatUint x.nodeID, x.name]⟩]

/-- What `ScrapeNdbinfoResources` sends for a long message buffer: its total and used pages in
bytes, multiplied in `uint64`, as the nearest `float64`. -/
def resourcesLongSignalSamples (k : PackageConsts) (x : LongSignalRecord) : List Metric :=
  [⟨ndbinfoResourcesReservedDesc k, .gauge,
      .num (nearestFloat64 (x.totalPages.toNat * 256 % 2 ^ 64) 1),
      [formatUint x.nodeID, GoString.ofString "LONG_SIGNAL_MEMORY"]⟩,
    ⟨ndbinfoResourcesUsedDesc k, .gauge,
      .num (nearestFloat64 (x.usedPages.toNat * 256 % 2 ^ 64) 1),
      [formatUint x.nodeID, GoString.ofString "LONG_SIGNAL_MEMORY"]⟩]

/-- What `ScrapeNdbinfoFreeMemory` sends for a resource: its free pages, clamped at zero, as the
nearest `float64`, in bytes. -/
def freeMemorySamples (k : PackageConsts) (x : ResourceRecord) : List Metric :=
  [⟨ndbinfoFreeMemoryDesc k, .gauge,
    .num (nearestFloat64 (x.reserved.toNat - x.used.toNat) 1 * 32768),
    [formatUint x.nodeID, x.name]⟩]

/-- What `ScrapeNdbinfoFreeMemory` sends for a long message buffer: its free pages, clamped at
zero, as the nearest `float64`, in bytes. -/
def freeMemoryLongSignalSamples (k : PackageConsts) (x : LongSignalRecord) : List Metric :=
  [⟨ndbinfoFreeMemoryDesc k, .gauge,
    .num (nearestFloat64 (x.totalPages.toNat - x.usedPages.toNat) 1 * 256),
    [formatUint x.nodeID, GoString.ofString "LONG_SIGNAL_MEMORY"]⟩]

section

variable {k : PackageConsts} (hk : k.Valid) (nodeID : UInt64)

include hk

/-! ### `ScrapeNdbinfoResources` -/

/-- **A resource row's group**: the reserved and used page counts times 32768, in `uint64`. -/
theorem resources_row (v : ResourcesVars) (reserved used : UInt64) {name : GoString}
    (hname : Utf8.validString name = true) :
    ((ndbinfoResourcesLoop k).iterate v (resourcesRow nodeID name reserved used)).sent =
      resourcesSamples k ⟨nodeID, name, reserved, used⟩ := by
  have hu := validString_nodeLabels nodeID hname
  have h₁ : (ndbinfoResourcesReservedDesc k).err = none := err_ndbDesc hk (by decide) (by decide)
  have h₂ : (ndbinfoResourcesUsedDesc k).err = none := err_ndbDesc hk (by decide) (by decide)
  rw [Loop.iterate_eq]
  simp only [ndbinfoResourcesLoop, scan_resourcesRow, sent_bind_pure, runAll_cons, Stmt.run,
    Loop.labelValues, List.map, Label.value, emitMetric_eq h₁ rfl hu, emitMetric_eq h₂ rfl hu,
    GoFloat.ofUInt64]
  rfl

/-- **A long message buffer row's group in `ScrapeNdbinfoResources`**: the total and used page
counts times 256, in `uint64`. -/
theorem resourcesLongSignal_row (v : ResourcesVars) (usedPages totalPages : UInt64) :
    ((ndbinfoResourcesLongSignalLoop k).iterate v
        (longSignalRow nodeID usedPages totalPages)).sent =
      resourcesLongSignalSamples k ⟨nodeID, usedPages, totalPages⟩ := by
  have hu := @validString_nodeLabels nodeID (GoString.ofString "LONG_SIGNAL_MEMORY") (by decide)
  have h₁ : (ndbinfoResourcesReservedDesc k).err = none := err_ndbDesc hk (by decide) (by decide)
  have h₂ : (ndbinfoResourcesUsedDesc k).err = none := err_ndbDesc hk (by decide) (by decide)
  rw [Loop.iterate_eq]
  simp only [ndbinfoResourcesLongSignalLoop, scan_longSignalRow, sent_bind_pure, runAll_cons,
    Stmt.run, Loop.labelValues, List.map, Label.value, emitMetric_eq h₁ rfl hu,
    emitMetric_eq h₂ rfl hu, GoFloat.ofUInt64]
  rfl

/-! ### `ScrapeNdbinfoFreeMemory` -/

/-- **A resource row's free memory**: reserved minus used pages, clamped at zero, times 32768. -/
theorem freeMemory_row (v : FreeMemoryVars) (reserved used : UInt64) {name : GoString}
    (hname : Utf8.validString name = true) :
    ((ndbinfoFreeMemoryLoop k).iterate v (resourcesRow nodeID name reserved used)).sent =
      freeMemorySamples k ⟨nodeID, name, reserved, used⟩ := by
  have hu := validString_nodeLabels nodeID hname
  have h₁ : (ndbinfoFreeMemoryDesc k).err = none := err_ndbDesc hk (by decide) (by decide)
  rw [Loop.iterate_eq]
  simp only [ndbinfoFreeMemoryLoop, scan_resourcesRow, sent_bind_pure, runAll_cons, runAll_nil,
    Stmt.run, Loop.labelValues, List.map, Label.value, emitMetric_eq h₁ rfl hu,
    GoFloat.ofUInt64, GoFloat.num_mul_num, clampSub_toNat]
  rfl

/-- **A long message buffer row's free memory**: total minus used pages, clamped at zero, times
256. -/
theorem freeMemoryLongSignal_row (v : FreeMemoryVars) (usedPages totalPages : UInt64) :
    ((ndbinfoFreeMemoryLongSignalLoop k).iterate v
        (longSignalRow nodeID usedPages totalPages)).sent =
      freeMemoryLongSignalSamples k ⟨nodeID, usedPages, totalPages⟩ := by
  have hu := @validString_nodeLabels nodeID (GoString.ofString "LONG_SIGNAL_MEMORY") (by decide)
  have h₁ : (ndbinfoFreeMemoryDesc k).err = none := err_ndbDesc hk (by decide) (by decide)
  rw [Loop.iterate_eq]
  simp only [ndbinfoFreeMemoryLongSignalLoop, scan_longSignalRow, sent_bind_pure, runAll_cons,
    runAll_nil, Stmt.run, Loop.labelValues, List.map, Label.value, emitMetric_eq h₁ rfl hu,
    GoFloat.ofUInt64, GoFloat.num_mul_num, clampSub_toNat]
  rfl

end

/-! ### Whole scrapes -/

/-- **A scrape of two queries whose rows all run through** sends the groups of the first query's
rows, then those of the second's, and returns `nil`. -/
theorem Scraper.scrape_of_pair {S : Scraper} {l₁ l₂ : Loop S.Vars} (hS : S.loops = [l₁, l₂])
    (hf₁ : l₁.Fresh) (hf₂ : l₂.Fresh) {db : Db} {rs₁ rs₂ : List Row} {en₁ en₂ : Ending}
    (h₁ : db l₁.query = .rows rs₁ en₁) (h₂ : db l₂.query = .rows rs₂ en₂)
    (hok₁ : ∀ r ∈ rs₁, (l₁.iterate S.vars r).result.isOk)
    (hok₂ : ∀ r ∈ rs₂, (l₂.iterate S.vars r).result.isOk) :
    S.scrape db = ⟨rs₁.flatMap (fun r ↦ (l₁.iterate S.vars r).sent) ++
      rs₂.flatMap (fun r ↦ (l₂.iterate S.vars r).sent), .ok ()⟩ := by
  rw [Scraper.scrape_of_complete (by rw [hS]; rintro l (_ | ⟨_, _ | ⟨_, ⟨⟩⟩⟩); exacts [hf₁, hf₂])
    (by rw [hS]; rintro l (_ | ⟨_, _ | ⟨_, ⟨⟩⟩⟩); exacts [⟨_, _, h₁, hok₁⟩, ⟨_, _, h₂, hok₂⟩])]
  simp only [hS, rowGroups, resultRows, List.flatMap_cons, List.flatMap_nil, List.append_nil, h₁,
    h₂, List.flatMap_append, List.flatMap_map]

/-- **What `ScrapeNdbinfoResources` sends** from a server whose resources are `rs` and whose long
message buffers are `ls`: each resource's reserved and used bytes, then each buffer's total and
used bytes, all multiplied in `uint64`; and it returns `nil`. -/
theorem resources_scrape_eq {k : PackageConsts} (hk : k.Valid) {db : Db}
    {rs : List ResourceRecord} {ls : List LongSignalRecord} {en en' : Ending}
    (h₁ : db ndbinfoResourcesQuery =
      .rows (rs.map fun x ↦ resourcesRow x.nodeID x.name x.reserved x.used) en)
    (h₂ : db ndbinfoLongSignalMemoryQuery =
      .rows (ls.map fun x ↦ longSignalRow x.nodeID x.usedPages x.totalPages) en')
    (hu : ∀ x ∈ rs, Utf8.validString x.name = true) :
    (scrapeNdbinfoResources k).scrape db =
      ⟨rs.flatMap (resourcesSamples k) ++ ls.flatMap (resourcesLongSignalSamples k), .ok ()⟩ := by
  have hw₁ := ndbinfoResourcesLoop_wellFormed k
  have hw₂ := ndbinfoResourcesLongSignalLoop_wellFormed k
  rw [Scraper.scrape_of_pair (S := scrapeNdbinfoResources k) rfl hw₁.fresh hw₂.fresh h₁ h₂
    (List.forall_mem_map.2 fun x hx ↦
      hw₁.iterate_isOk hk (by simp [ndbinfoResourcesLoop, Stmt.parses]) _
      (scan_resourcesRow _ _ _ _) (validString_resourcesRow _ _ _ (hu x hx)))
    (List.forall_mem_map.2 fun _ _ ↦ hw₂.iterate_isOk hk
      (by simp [ndbinfoResourcesLongSignalLoop, Stmt.parses]) _
      (scan_longSignalRow _ _ _) (validString_longSignalRow _ _ _)),
    List.flatMap_map, List.flatMap_map,
    List.flatMap_congr fun x hx ↦ resources_row hk x.nodeID _ x.reserved x.used (hu x hx),
    List.flatMap_congr fun (x : LongSignalRecord) _ ↦
      resourcesLongSignal_row hk x.nodeID _ x.usedPages x.totalPages]

/-- A server with one resource, `DATA_MEMORY` of node 1 with 16 pages reserved and 4 used, and one
long message buffer, of node 2 with 3 of its 8 pages used. -/
def memoryDb : Db := fun q ↦
  if q = ndbinfoLongSignalMemoryQuery then .rows [longSignalRow 2 3 8] .eof
  else .rows [resourcesRow 1 (GoString.ofString "DATA_MEMORY") 16 4] .eof

theorem resources_scrape_eq_memoryDb :
    (scrapeNdbinfoResources .sample).scrape memoryDb =
      ⟨resourcesSamples .sample ⟨1, GoString.ofString "DATA_MEMORY", 16, 4⟩ ++
        resourcesLongSignalSamples .sample ⟨2, 3, 8⟩, .ok ()⟩ :=
  @resources_scrape_eq _ PackageConsts.sample_valid memoryDb
    [⟨1, GoString.ofString "DATA_MEMORY", 16, 4⟩] [⟨2, 3, 8⟩] .eof .eof (if_neg (by decide))
    (if_pos rfl) (by decide)

/-- **What `ScrapeNdbinfoFreeMemory` sends** from a server whose selected resources are `rs` and
whose long message buffers are `ls`: each one's free bytes, clamped at zero; and it returns
`nil`. -/
theorem freeMemory_scrape_eq {k : PackageConsts} (hk : k.Valid) {db : Db}
    {rs : List ResourceRecord} {ls : List LongSignalRecord} {en en' : Ending}
    (h₁ : db ndbinfoFreeMemoryQuery =
      .rows (rs.map fun x ↦ resourcesRow x.nodeID x.name x.reserved x.used) en)
    (h₂ : db ndbinfoLongSignalMemoryQuery =
      .rows (ls.map fun x ↦ longSignalRow x.nodeID x.usedPages x.totalPages) en')
    (hu : ∀ x ∈ rs, Utf8.validString x.name = true) :
    (scrapeNdbinfoFreeMemory k).scrape db =
      ⟨rs.flatMap (freeMemorySamples k) ++ ls.flatMap (freeMemoryLongSignalSamples k), .ok ()⟩ := by
  have hw₁ := ndbinfoFreeMemoryLoop_wellFormed k
  have hw₂ := ndbinfoFreeMemoryLongSignalLoop_wellFormed k
  rw [Scraper.scrape_of_pair (S := scrapeNdbinfoFreeMemory k) rfl hw₁.fresh hw₂.fresh h₁ h₂
    (List.forall_mem_map.2 fun x hx ↦
      hw₁.iterate_isOk hk (by simp [ndbinfoFreeMemoryLoop, Stmt.parses]) _
      (scan_resourcesRow _ _ _ _) (validString_resourcesRow _ _ _ (hu x hx)))
    (List.forall_mem_map.2 fun _ _ ↦ hw₂.iterate_isOk hk
      (by simp [ndbinfoFreeMemoryLongSignalLoop, Stmt.parses]) _
      (scan_longSignalRow _ _ _) (validString_longSignalRow _ _ _)),
    List.flatMap_map, List.flatMap_map,
    List.flatMap_congr fun x hx ↦ freeMemory_row hk x.nodeID _ x.reserved x.used (hu x hx),
    List.flatMap_congr fun (x : LongSignalRecord) _ ↦
      freeMemoryLongSignal_row hk x.nodeID _ x.usedPages x.totalPages]

theorem freeMemory_scrape_eq_memoryDb :
    (scrapeNdbinfoFreeMemory .sample).scrape memoryDb =
      ⟨freeMemorySamples .sample ⟨1, GoString.ofString "DATA_MEMORY", 16, 4⟩ ++
        freeMemoryLongSignalSamples .sample ⟨2, 3, 8⟩, .ok ()⟩ :=
  @freeMemory_scrape_eq _ PackageConsts.sample_valid memoryDb
    [⟨1, GoString.ofString "DATA_MEMORY", 16, 4⟩] [⟨2, 3, 8⟩] .eof .eof (if_neg (by decide))
    (if_pos rfl) (by decide)

/-! ### Where the two disagree -/

/-- **`ScrapeNdbinfoResources` wraps at `2^49` pages**: for a resource with `2^49` pages reserved
and none used, it reports 0 bytes reserved, while `ScrapeNdbinfoFreeMemory` reports `2^64` bytes
free. -/
theorem resources_reserved_wraps :
    ((ndbinfoResourcesLoop .sample).iterate {}
        (resourcesRow 1 (GoString.ofString "DATA_MEMORY") 562949953421312 0)).sent.map
        Metric.value = [.num 0, .num 0] ∧
      ((ndbinfoFreeMemoryLoop .sample).iterate {}
        (resourcesRow 1 (GoString.ofString "DATA_MEMORY") 562949953421312 0)).sent.map
        Metric.value = [.num 18446744073709551616] := by
  have h : (562949953421312 : UInt64).toNat = 562949953421312 := rfl
  rw [resources_row PackageConsts.sample_valid _ _ _ _ (by decide),
    freeMemory_row PackageConsts.sample_valid _ _ _ _ (by decide)]
  norm_num [h, resourcesSamples, freeMemorySamples, nearestFloat64_of_lt]

end Collector

import MysqldExporterNdb.Collector.Registry
import Mathlib.Data.List.Nodup

/-!
# Metric names across collectors

The collectors of the package send their samples to one channel, and a Prometheus registry keys
what it gathers by metric name: every sample of one name must carry one help text, one set of
label names and one value type. Across the package a metric name fixes all of these: on any
servers, two samples of one name, from one collector or from two, share their descriptor and
their value type (`sent_family_consistent`); and no two collectors ever send to one name
(`collectors_fqName_pairwise`).

A descriptor's name is `BuildFQName(ns, subsystem, name)`: a prefix the package constants decide,
then the name the descriptor gives (`buildFQName_eq_append`). `ScrapeFiles` names its descriptors
under `namespace` and `informationSchema`, every other collector under `"ndb"` and `ndbinfo`
(`Subsystem`). Under one prefix two names agree only if the given names do, and under two only if
one given name ends the other (`Subsystem.fqName_injOn`).

Every loop of a collector sends to the descriptors of its first loop, with the same value types:
the second loops of `ScrapeNdbinfoResources` and `ScrapeNdbinfoFreeMemory` repeat the first
loop's statements on the long message buffer (`kinds_subset_firstKinds`). `collectorNames` lists,
collector by collector, the subsystem and given name of each statement of the first loop; it is
the model's own list by `rfl` (`firstKinds_collectors`), and its given names are checked
distinct once, by evaluation (`collectorNames_nodup_hash`, `collectorNames_suffix_free`).
-/

open Sql Prometheus Scrape

namespace Scrape

/-- The descriptor and the value type of each statement of a collector, loop by loop. -/
def Scraper.kinds (S : Scraper) : List (Desc × ValueType) :=
  S.loops.flatMap fun l ↦ l.body.map fun st ↦ (st.desc, st.valueType)

/-- The descriptor and the value type of each statement of a collector's first loop. -/
def Scraper.firstKinds (S : Scraper) : List (Desc × ValueType) :=
  match S.loops with
  | [] => []
  | l :: _ => l.body.map fun st ↦ (st.desc, st.valueType)

theorem Scraper.kind_mem_kinds (S : Scraper) (db : Db) :
    ∀ m ∈ (S.scrape db).sent, (m.desc, m.valueType) ∈ S.kinds :=
  Scraper.sentAll_scrape fun l hl v r m hm ↦
    List.mem_flatMap.2 ⟨l, hl, l.sentAll_iterate_kind v r m hm⟩

/-- A collector whose later loops repeat its first loop's statements sends only their kinds. -/
theorem Scraper.kinds_subset_of_loops {S : Scraper} {l : Loop S.Vars} {ls : List (Loop S.Vars)}
    (h : S.loops = l :: ls)
    (hl : ∀ l' ∈ ls, (l'.body.map fun st ↦ (st.desc, st.valueType)) =
      l.body.map fun st ↦ (st.desc, st.valueType)) :
    ∀ p ∈ S.kinds, p ∈ S.firstKinds := by
  intro p hp
  simp only [Scraper.kinds, Scraper.firstKinds, h] at hp ⊢
  obtain ⟨l', hl', hp'⟩ := List.mem_flatMap.1 hp
  rcases List.mem_cons.1 hl' with rfl | hl'
  · exact hp'
  · rwa [hl l' hl'] at hp'

end Scrape

namespace Collector

/-- The two ways the package names a descriptor: `BuildFQName("ndb", ndbinfo, name)`, or
`BuildFQName(namespace, informationSchema, name)`. -/
inductive Subsystem
  | ndbinfo
  | informationSchema
  deriving DecidableEq

/-- The name of a descriptor given its subsystem and its own name. -/
def Subsystem.fqName (k : PackageConsts) : Subsystem × String → String
  | (.ndbinfo, name) => buildFQName "ndb" k.ndbinfo name
  | (.informationSchema, name) => buildFQName k.ns k.informationSchema name

/-- The subsystem and the given name of the descriptor of each statement of each collector's first
loop, in order. -/
def collectorNames : List (List (Subsystem × String)) :=
  [[(.informationSchema, "files_free_extents"), (.informationSchema, "files_total_extents"),
      (.informationSchema, "files_extent_size"), (.informationSchema, "files_initial_size")],
    [(.ndbinfo, "cluster_locks_count"), (.ndbinfo, "cluster_locks_avg_duration")],
    [(.ndbinfo, "cluster_operations")],
    [(.ndbinfo, "cluster_transactions")],
    [(.ndbinfo, "spj_counter")],
    [(.ndbinfo, "disk_write_speed_lcp"), (.ndbinfo, "disk_write_speed_redo"),
      (.ndbinfo, "disk_write_speed_io_slowdown"), (.ndbinfo, "disk_write_speed_cpu_slowdown")],
    [(.ndbinfo, "diskpagebuffer_pages_written"), (.ndbinfo, "diskpagebuffer_pages_written_lcp"),
      (.ndbinfo, "diskpagebuffer_pages_read"), (.ndbinfo, "diskpagebuffer_log_waits"),
      (.ndbinfo, "diskpagebuffer_direct_return"), (.ndbinfo, "diskpagebuffer_wait_queue"),
      (.ndbinfo, "diskpagebuffer_wait_io")],
    [(.ndbinfo, "free_memory")],
    [(.ndbinfo, "logspaces_used"), (.ndbinfo, "logspaces_total")],
    [(.ndbinfo, "memory_resource_reserved"), (.ndbinfo, "memory_resource_used")],
    [(.ndbinfo, "processes")],
    [(.ndbinfo, "pgman_time_track_page_reads"), (.ndbinfo, "pgman_time_track_page_writes"),
      (.ndbinfo, "pgman_time_track_log_waits"), (.ndbinfo, "pgman_time_track_get_page")],
    [(.ndbinfo, "logbuffers_used"), (.ndbinfo, "logbuffers_total")],
    [(.ndbinfo, "memory_used"), (.ndbinfo, "memory_total"), (.ndbinfo, "memory_pages"),
      (.ndbinfo, "memory_total_pages")],
    [(.ndbinfo, "transporters_bytes_sent"), (.ndbinfo, "transporters_bytes_received"),
      (.ndbinfo, "transporters_connection_count"), (.ndbinfo, "transporters_overloaded"),
      (.ndbinfo, "transporters_overloaded_count"), (.ndbinfo, "transporters_slowdown"),
      (.ndbinfo, "transporters_slowdown_count")],
    [(.ndbinfo, "threadstat_loop"), (.ndbinfo, "threadstat_exec"), (.ndbinfo, "threadstat_wait"),
      (.ndbinfo, "threadstat_os_time"), (.ndbinfo, "threadstat_user_time"),
      (.ndbinfo, "threadstat_system_time"), (.ndbinfo, "threadstat_soft_pagfault"),
      (.ndbinfo, "threadstat_hard_pagfault"), (.ndbinfo, "threadstat_ctx_switch_voluntary"),
      (.ndbinfo, "threadstat_ctx_switch_involuntary")],
    [(.ndbinfo, "tc_time_track_scans"), (.ndbinfo, "tc_time_track_transactions"),
      (.ndbinfo, "tc_time_track_read_key"), (.ndbinfo, "tc_time_track_write_key"),
      (.ndbinfo, "tc_time_track_index_key")]]

/-- Every loop of a collector of the package repeats its first loop's kinds. -/
theorem kinds_subset_firstKinds {k : PackageConsts} {S : Scraper} (hS : S ∈ collectors k) :
    ∀ p ∈ S.kinds, p ∈ S.firstKinds := by
  simp only [collectors, List.mem_cons, List.mem_nil_iff, or_false] at hS
  rcases hS with rfl | rfl | rfl | rfl | rfl | rfl | rfl | rfl | rfl | rfl | rfl | rfl | rfl |
    rfl | rfl | rfl | rfl
  all_goals first
    | exact Scraper.kinds_subset_of_loops rfl fun _ h ↦ absurd h (List.not_mem_nil _)
    | exact Scraper.kinds_subset_of_loops rfl (List.forall_mem_singleton.2 rfl)

theorem firstKinds_collectors (k : PackageConsts) :
    (collectors k).map (fun S ↦ S.firstKinds.map fun p ↦ p.1.fqName) =
      collectorNames.map (·.map (Subsystem.fqName k)) :=
  rfl

/-- A number computed from a given name: names with different numbers differ. -/
def nameHash (s : String) : Nat := s.data.foldl (fun h c ↦ 31 * h + c.toNat) 0

/-- The given names of the package have distinct numbers, so they are distinct. -/
theorem collectorNames_nodup_hash :
    (collectorNames.flatten.map fun x ↦ nameHash x.2).Nodup := by
  decide

/-- Every given name is non-empty, and no given name under one subsystem ends a given name under
the other. -/
theorem collectorNames_suffix_free :
    collectorNames.flatten.all (fun x ↦ x.2 ≠ "" && (x.1 = .ndbinfo ||
      collectorNames.flatten.all fun y ↦ y.1 = .informationSchema ||
        !(x.2.data.isSuffixOf y.2.data) && !(y.2.data.isSuffixOf x.2.data))) = true := rfl

theorem ne_empty_of_mem_collectorNames {x : Subsystem × String}
    (hx : x ∈ collectorNames.flatten) : x.2 ≠ "" := by
  have h := List.all_eq_true.1 collectorNames_suffix_free x hx
  simp only [Bool.and_eq_true, decide_eq_true_eq] at h
  exact h.1

theorem not_isSuffix_of_mem_collectorNames {x y : Subsystem × String}
    (hx : x ∈ collectorNames.flatten) (hy : y ∈ collectorNames.flatten)
    (hxs : x.1 = .informationSchema) (hys : y.1 = .ndbinfo) :
    ¬x.2.data <:+ y.2.data ∧ ¬y.2.data <:+ x.2.data := by
  have h := List.all_eq_true.1 collectorNames_suffix_free x hx
  simp only [hxs, Bool.and_eq_true, Bool.or_eq_true, decide_eq_true_eq, reduceCtorEq,
    false_or, List.all_eq_true] at h
  have h' := h.2 y hy
  simp only [hys, reduceCtorEq, decide_False, Bool.false_or, Bool.and_eq_true,
    Bool.not_eq_true', ← Bool.not_eq_true, List.isSuffixOf_iff_suffix, false_or] at h'
  exact h'

/-- **A metric name of the package comes from one given name**: under one subsystem the given
names agree, and under two neither ends the other. -/
theorem Subsystem.fqName_injOn (k : PackageConsts) {x y : Subsystem × String}
    (hx : x ∈ collectorNames.flatten) (hy : y ∈ collectorNames.flatten)
    (h : Subsystem.fqName k x = Subsystem.fqName k y) : x = y := by
  obtain ⟨s, a⟩ := x
  obtain ⟨t, b⟩ := y
  have ha := ne_empty_of_mem_collectorNames hx
  have hb := ne_empty_of_mem_collectorNames hy
  cases s <;> cases t
  case ndbinfo.ndbinfo | informationSchema.informationSchema =>
    obtain rfl : a = b := eq_of_buildFQName_eq ha hb h
    rfl
  case ndbinfo.informationSchema =>
    have h' := not_isSuffix_of_mem_collectorNames hy hx rfl rfl
    exact ((isSuffix_of_buildFQName_eq ha hb h).elim h'.2 h'.1).elim
  case informationSchema.ndbinfo =>
    have h' := not_isSuffix_of_mem_collectorNames hx hy rfl rfl
    exact ((isSuffix_of_buildFQName_eq ha hb h).elim h'.1 h'.2).elim

/-- **The metric names of the package's first loops are distinct**, whatever the package
constants. -/
theorem firstNames_nodup (k : PackageConsts) :
    ((collectors k).map fun S ↦ S.firstKinds.map fun p ↦ p.1.fqName).flatten.Nodup := by
  rw [firstKinds_collectors, ← List.map_flatten]
  exact (List.Nodup.of_map _ collectorNames_nodup_hash).map_on fun x hx y hy h ↦
    Subsystem.fqName_injOn k hx hy h

/-- **No two collectors send to one metric name**, whatever the package constants: on any
servers, a sample of one collector of the package and a sample of another have different metric
names. -/
theorem collectors_fqName_pairwise (k : PackageConsts) :
    (collectors k).Pairwise fun S S' ↦ ∀ db db', ∀ m ∈ (S.scrape db).sent,
      ∀ m' ∈ (S'.scrape db').sent, m.desc.fqName ≠ m'.desc.fqName := by
  have hd := List.pairwise_map.1 (List.nodup_flatten.1 (firstNames_nodup k)).2
  refine hd.imp_of_mem fun {S S'} hS hS' hSS' db db' m hm m' hm' he ↦ hSS'
    (List.mem_map_of_mem (fun p ↦ p.1.fqName)
      (kinds_subset_firstKinds hS _ (S.kind_mem_kinds db m hm)))
    (he ▸ List.mem_map_of_mem (fun p ↦ p.1.fqName)
      (kinds_subset_firstKinds hS' _ (S'.kind_mem_kinds db' m' hm')))

/-- **Metric families are consistent across the package**: on any servers, two samples of the
package's collectors, of one collector or of two, that share a metric name share its descriptor,
so its help text and label names, and its value type. -/
theorem sent_family_consistent {k : PackageConsts} {S S' : Scraper} (hS : S ∈ collectors k)
    (hS' : S' ∈ collectors k) (db db' : Db) :
    ∀ m ∈ (S.scrape db).sent, ∀ m' ∈ (S'.scrape db').sent, m.desc.fqName = m'.desc.fqName →
      m.desc = m'.desc ∧ m.valueType = m'.valueType := by
  intro m hm m' hm' he
  have hn : (((collectors k).flatMap Scraper.firstKinds).map fun p ↦ p.1.fqName).Nodup := by
    rw [List.map_flatMap]
    exact firstNames_nodup k
  exact Prod.mk.inj_iff.1 (List.inj_on_of_nodup_map hn
    (List.mem_flatMap.2 ⟨S, hS, kinds_subset_firstKinds hS _ (S.kind_mem_kinds db m hm)⟩)
    (List.mem_flatMap.2 ⟨S', hS', kinds_subset_firstKinds hS' _ (S'.kind_mem_kinds db' m' hm')⟩)
    he)

/-- A server whose every query returns two rows of `ndbinfo.processes`. -/
def twoProcessesDb : Db := fun _ ↦
  .rows [textRow ["NDB", "ndbd", "2"], textRow ["API", "mysqld", "1"]] .eof

theorem sent_family_consistent_processes :
    ∃ m ∈ ((scrapeNdbinfoProcesses .sample).scrape twoProcessesDb).sent,
      ∃ m' ∈ ((scrapeNdbinfoProcesses .sample).scrape twoProcessesDb).sent, m ≠ m' ∧
        m.desc.fqName = m'.desc.fqName ∧ m.desc = m'.desc ∧ m.valueType = m'.valueType := by
  obtain ⟨m, hm, m', hm', hne, he⟩ :
      ∃ m ∈ ((scrapeNdbinfoProcesses .sample).scrape twoProcessesDb).sent,
        ∃ m' ∈ ((scrapeNdbinfoProcesses .sample).scrape twoProcessesDb).sent, m ≠ m' ∧
          m.desc.fqName = m'.desc.fqName := by
    decide
  have hS : scrapeNdbinfoProcesses .sample ∈ collectors .sample := by simp [collectors]
  exact ⟨m, hm, m', hm', hne, he,
    sent_family_consistent hS hS twoProcessesDb twoProcessesDb m hm m' hm' he⟩

end Collector

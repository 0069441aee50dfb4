import MysqldExporterNdb.Collector.Cluster
import MysqldExporterNdb.Collector.Disk
import MysqldExporterNdb.Collector.Files
import MysqldExporterNdb.Collector.Memory
import MysqldExporterNdb.Collector.Threads

/-!
# The collectors of the package

`collectors` lists the seventeen `Scraper` implementations of the package, in the order of
their files. The harness that picks among them by version is not part of this development; the
theorems about "every collector" are about this list.

`wellFormed_of_mem_collectors` gathers each collector's `Loop.WellFormed` lemmas: it is the one
place where the theorems about all collectors meet the code of each.
-/

open Sql Prometheus Scrape

namespace Collector

/-- The collectors of the package. -/
def collectors (k : PackageConsts) : List Scraper :=
  [scrapeFiles k, scrapeNdbinfoClusterLocks k, scrapeNdbinfoClusterOperations k,
    scrapeNdbinfoClusterTransactions k, scrapeNdbinfoCountersSPJ k,
    scrapeNdbinfoDiskWriteSpeedAggregate k, scrapeNdbinfoDiskpagebuffers k,
    scrapeNdbinfoFreeMemory k, scrapeNdbinfoLogspaces k, scrapeNdbinfoResources k,
    scrapeNdbinfoProcesses k, scrapeNdbinfoPgmanTimeTrack k, scrapeNdbinfoLogbuffers k,
    scrapeNdbinfoMemoryusage k, scrapeNdbinfoTransporters k, scrapeNdbinfoThreadstat k,
    scrapeNdbinfoTcTimeTrack k]

section

variable {k : PackageConsts} {ks : List Bool} {name : String} {σ : Type} {vars : σ}

theorem wellFormed_single {l : Loop σ} (h : l.WellFormed k ks) :
    WellFormed k ⟨name, σ, vars, [l]⟩ :=
  ⟨ks, fun l' hl' ↦ by rw [List.mem_singleton.1 hl']; exact h⟩

theorem wellFormed_pair {l₁ l₂ : Loop σ} (h₁ : l₁.WellFormed k ks) (h₂ : l₂.WellFormed k ks) :
    WellFormed k ⟨name, σ, vars, [l₁, l₂]⟩ :=
  ⟨ks, fun l' hl' ↦ by
    rcases List.mem_pair.1 hl' with h | h <;> rw [h]
    exacts [h₁, h₂]⟩

end

/-- **Every collector of the package is well formed.** -/
theorem wellFormed_of_mem_collectors {k : PackageConsts} {S : Scraper} (h : S ∈ collectors k) :
    WellFormed k S := by
  simp only [collectors, List.mem_cons, List.mem_nil_iff, or_false] at h
  rcases h with rfl | rfl | rfl | rfl | rfl | rfl | rfl | rfl | rfl | rfl | rfl | rfl | rfl |
    rfl | rfl | rfl | rfl
  · exact wellFormed_single (infoSchemaFilesLoop_wellFormed k)
  · exact wellFormed_single (ndbinfoClusterLocksLoop_wellFormed k)
  · exact wellFormed_single (ndbinfoClusterOperationsLoop_wellFormed k)
  · exact wellFormed_single (ndbinfoClusterTransactionsLoop_wellFormed k)
  · exact wellFormed_single (ndbinfoCountersSPJLoop_wellFormed k)
  · exact wellFormed_single (ndbinfoDiskWriteSpeedAggregateLoop_wellFormed k)
  · exact wellFormed_single (ndbinfoDiskpagebuffersLoop_wellFormed k)
  · exact wellFormed_pair (ndbinfoFreeMemoryLoop_wellFormed k)
      (ndbinfoFreeMemoryLongSignalLoop_wellFormed k)
  · exact wellFormed_single (ndbinfoLogspacesLoop_wellFormed k)
  · exact wellFormed_pair (ndbinfoResourcesLoop_wellFormed k)
      (ndbinfoResourcesLongSignalLoop_wellFormed k)
  · exact wellFormed_single (ndbinfoProcessesLoop_wellFormed k)
  · exact wellFormed_single (ndbinfoPgmanTimeTrackLoop_wellFormed k)
  · exact wellFormed_single (ndbinfoLogbuffersLoop_wellFormed k)
  · exact wellFormed_single (ndbinfoMemoryusageLoop_wellFormed k)
  · exact wellFormed_single (ndbinfoTransportersLoop_wellFormed k)
  · exact wellFormed_single (ndbinfoThreadstatLoop_wellFormed k)
  · exact wellFormed_single (ndbinfoTcTimeTrackLoop_wellFormed k)

end Collector

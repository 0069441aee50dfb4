import Mathlib.Data.List.Nodup
import MysqldExporterNdb.Properties.Rows

/-!
# One sample per series

A Prometheus registry refuses a collection in which two samples share a descriptor and label
values. A collector's row sends each of its statements' samples once, to distinct descriptors, all
with the row's label values; so two samples of one scrape can only clash when they come from two
rows that render the same labels. `scrape_series_nodup` shows that is the only way: when the label
tuples of the rows a scrape's queries return are pairwise distinct (`Scraper.labelKeys`), no two
of its samples are of the same series.

The rows are those of every query of the scrape together. `ScrapeNdbinfoResources` and
`ScrapeNdbinfoFreeMemory` send their second query's rows to the first query's descriptors, with a
constant `"LONG_SIGNAL_MEMORY"` in place of the memory type, so distinct rows within each query
are not enough (`resources_series_clash`).
-/

open Sql Prometheus Scrape Emit Collector

namespace Scrape

variable {σ : Type}

/-- The labels a row renders from the variables `v₀`, when it scans. -/
def rowLabels (v₀ : σ) (p : Loop σ × Row) : Option (List Label) :=
  (scan p.1.dests p.2).toOption.map fun t ↦ p.1.labels (p.1.assign v₀ t)

/-- The label tuples of all the rows a scrape's queries return. -/
def Scraper.labelKeys (S : Scraper) (db : Db) : List (List Label) :=
  (resultRows db S.loops).filterMap (rowLabels S.vars)

variable {k : PackageConsts} {ks : List Bool}

/-- **A row's samples are of distinct series**, and each carries the values of the labels the row
renders, which are of the loop's kinds. -/
theorem Loop.WellFormed.series_iterate {l : Loop σ} (hw : l.WellFormed k ks) (v : σ) (r : Row) :
    ((l.iterate v r).sent.map Metric.series).Nodup ∧
      ∀ m ∈ (l.iterate v r).sent, ∃ x, rowLabels v (l, r) = some x ∧
        x.map Label.isNumber = ks ∧ m.labelValues = x.map Label.value := by
  rw [l.iterate_eq]
  rcases hsc : scan l.dests r with e | t
  · exact ⟨List.nodup_nil, fun m hm ↦ nomatch hm⟩
  · simp only [sent_bind_pure]
    obtain ⟨hd, hls⟩ :=
      @sent_runAll_sublist σ (l.labelValues (l.assign v t)) (l.assign v t) l.body
    refine ⟨?_, fun m hm ↦ ⟨_, by simp [rowLabels, hsc, Except.toOption], hw.kinds _, hls m hm⟩⟩
    have hs : (runAll (l.labelValues (l.assign v t)) (l.assign v t) l.body).sent.map
        Metric.series = ((runAll (l.labelValues (l.assign v t)) (l.assign v t) l.body).sent.map
          Metric.desc).map (·, l.labelValues (l.assign v t)) := by
      rw [List.map_map]
      exact List.map_congr_left fun m hm ↦ by rw [Metric.series, hls m hm]; rfl
    rw [hs]
    exact List.Nodup.map (fun _ _ h ↦ congrArg Prod.fst h) (hw.distinct.sublist hd)

/-- **Rows that render distinct labels send samples of distinct series.** -/
theorem series_disjoint {p q : Loop σ × Row} (hp : p.1.WellFormed k ks)
    (hq : q.1.WellFormed k ks) {v₀ : σ}
    (h : ∀ x ∈ rowLabels v₀ p, ∀ y ∈ rowLabels v₀ q, x ≠ y) :
    List.Disjoint ((p.1.iterate v₀ p.2).sent.map Metric.series)
      ((q.1.iterate v₀ q.2).sent.map Metric.series) := by
  intro a ha hb
  obtain ⟨m, hm, rfl⟩ := List.mem_map.1 ha
  obtain ⟨m', hm', he⟩ := List.mem_map.1 hb
  obtain ⟨x, hx, hkx, hmx⟩ := (hp.series_iterate v₀ p.2).2 m hm
  obtain ⟨y, hy, hky, hmy⟩ := (hq.series_iterate v₀ q.2).2 m' hm'
  have hv : y.map Label.value = x.map Label.value := by
    rw [← hmx, ← hmy]; exact congrArg Prod.snd he
  exact h x hx y hy (Label.map_value_injective (hkx.trans hky.symm) hv.symm)

end Scrape

namespace Collector

/-- **No two samples of a scrape are of one series** when the rows of its queries render pairwise
distinct labels. -/
theorem scrape_series_nodup {k : PackageConsts} {S : Scraper} (hS : S ∈ collectors k)
    (db : Db) (h : (S.labelKeys db).Nodup) : ((S.scrape db).sent.map Metric.series).Nodup := by
  obtain ⟨ks, hw⟩ := wellFormed_of_mem_collectors hS
  have hmem : ∀ p ∈ processedRows db S.vars S.loops, p.1.WellFormed k ks := fun p hp ↦
    hw _ (fst_mem_of_mem_resultRows ((processedRows_sublist db S.vars S.loops).subset hp))
  have hkeys := List.pairwise_filterMap.1
    (h.sublist ((processedRows_sublist db S.vars S.loops).filterMap (rowLabels S.vars)))
  rw [S.sent_scrape_of_fresh (fun l hl ↦ (hw l hl).fresh) db, rowGroups, List.map_flatMap]
  exact List.nodup_flatMap.2 ⟨fun p hp ↦ ((hmem p hp).series_iterate _ _).1,
    hkeys.imp_of_mem fun hp hq hpq ↦ series_disjoint (hmem _ hp) (hmem _ hq) hpq⟩

/-- A server on which `ndbinfo.resources` has one row, for node 1 and the resource `name`, and
every other query one `Long message buffer` row of node 1. -/
def resourcesDb (name : String) : Db := fun q ↦
  if q = ndbinfoResourcesQuery then .rows [textRow ["1", name, "0", "0"]] .eof
  else .rows [textRow ["1", "0", "0"]] .eof

theorem scrape_series_nodup_resources :
    scrapeNdbinfoResources .sample ∈ collectors .sample ∧
      ((scrapeNdbinfoResources .sample).labelKeys (resourcesDb "DATA_MEMORY")).Nodup ∧
      (((scrapeNdbinfoResources .sample).scrape (resourcesDb "DATA_MEMORY")).sent.map
        Metric.series).Nodup :=
  have hS : scrapeNdbinfoResources .sample ∈ collectors .sample := by simp [collectors]
  have hk : ((scrapeNdbinfoResources .sample).labelKeys (resourcesDb "DATA_MEMORY")).Nodup := by
    decide
  ⟨hS, hk, scrape_series_nodup hS _ hk⟩

/-- **Distinct rows within each query are not enough**: a resource named `LONG_SIGNAL_MEMORY`
gives the first query's samples the series of the second's. -/
theorem resources_series_clash :
    ¬ (((scrapeNdbinfoResources .sample).scrape (resourcesDb "LONG_SIGNAL_MEMORY")).sent.map
      Metric.series).Nodup := by
  decide

end Collector

import MysqldExporterNdb.Scrape.Run

/-!
# What the collectors share: the package's constants, and what their code guarantees

Every descriptor of the package is named `prometheus.BuildFQName(ns, subsystem, name)`, where
`subsystem` is one of the package constants `informationSchema` and `ndbinfo` and `ns` is the
constant `namespace` or the literal `"ndb"`. Those three constants are declared in a file of the
package that is not part of this development, so they are a parameter of the model
(`PackageConsts`); `PackageConsts.Valid` says what of them the theorems need, and
`isValidMetricName_buildFQName` shows it is enough for every descriptor name.

`WellFormed` collects what the code of a collector guarantees of its loops, whatever the rows: the
facts the theorems about all collectors rest on. Each collector's module proves it of its own
code, and nothing else about a single collector is needed to prove them.
-/

open Sql Prometheus Scrape

namespace Collector

/-- The package constants `namespace`, `informationSchema` and `ndbinfo`. -/
structure PackageConsts where
  ns : String
  informationSchema : String
  ndbinfo : String

/-- Whether every character of `s` may stand inside a metric name. -/
def metricNameChars (s : String) : Bool := s.toList.all (isMetricNameRune false)

/-- **Constants that make every descriptor name valid**: `namespace` is itself a metric name, and
the two subsystems are made of metric-name characters. -/
def PackageConsts.Valid (k : PackageConsts) : Prop :=
  isValidMetricName k.ns = true ∧ metricNameChars k.informationSchema = true ∧
    metricNameChars k.ndbinfo = true

instance : DecidablePred PackageConsts.Valid := fun _ ↦ inferInstanceAs (Decidable (_ ∧ _ ∧ _))

/-- A valid choice of the three constants, to run the collectors on concrete rows. -/
def PackageConsts.sample : PackageConsts := ⟨"mysql", "info_schema", "ndbinfo"⟩

theorem PackageConsts.sample_valid : PackageConsts.sample.Valid := by decide

/-! ### Valid descriptor names -/

theorem isValidMetricName_append {a b : String} (ha : isValidMetricName a = true)
    (hb : metricNameChars b = true) : isValidMetricName (a ++ b) = true := by
  unfold isValidMetricName at *
  show (match a.toList ++ b.toList with
    | [] => false
    | c :: cs => isMetricNameRune true c && cs.all (isMetricNameRune false)) = true
  split at ha
  · cases ha
  · rename_i c cs hcs
    rw [hcs]
    simp only [List.cons_append, Bool.and_eq_true, List.all_append] at ha ⊢
    exact ⟨ha.1, ha.2, hb⟩

theorem metricNameChars_append {a b : String} (ha : metricNameChars a = true)
    (hb : metricNameChars b = true) : metricNameChars (a ++ b) = true := by
  unfold metricNameChars at *
  show (a.toList ++ b.toList).all _ = true
  rw [List.all_append, ha, hb]; rfl

/-- **`BuildFQName` of a valid namespace and subsystem is valid**, for a suffix made of
metric-name characters, whichever of the two is empty. -/
theorem isValidMetricName_buildFQName {ns sub name : String} (hns : isValidMetricName ns = true)
    (hsub : metricNameChars sub = true) (hname : metricNameChars name = true) (h : name ≠ "") :
    isValidMetricName (buildFQName ns sub name) = true := by
  have hus : metricNameChars "_" = true := rfl
  have hne : ns ≠ "" := by rintro rfl; cases hns
  unfold buildFQName
  simp only [if_neg h, hne, ne_eq, not_false_eq_true, true_and, if_true]
  split
  · exact isValidMetricName_append (isValidMetricName_append (isValidMetricName_append
      (isValidMetricName_append hns hus) hsub) hus) hname
  · exact isValidMetricName_append (isValidMetricName_append hns hus) hname

/-- A descriptor with a valid name and valid, distinct label names has no error. -/
theorem Desc.err_eq_none {d : Desc} (hn : isValidMetricName d.fqName = true)
    (hl : d.variableLabels.all checkLabelName = true) (hd : d.variableLabels.Nodup) :
    d.err = none := by
  have hf : d.variableLabels.find? (!checkLabelName ·) = none :=
    List.find?_eq_none.2 fun l hl' ↦ by simpa using List.all_eq_true.1 hl l hl'
  simp [Desc.err, hn, hf, hd]

/-- **The descriptors named `ndb_<ndbinfo>_<name>` are valid**, for a name and labels that are. -/
theorem err_ndbDesc {k : PackageConsts} (hk : k.Valid) {name help : String} {labels : List String}
    (hname : metricNameChars name = true ∧ name ≠ "")
    (hl : labels.all checkLabelName = true ∧ labels.Nodup) :
    Desc.err ⟨buildFQName "ndb" k.ndbinfo name, help, labels⟩ = none :=
  Desc.err_eq_none (isValidMetricName_buildFQName rfl hk.2.2 hname.1 hname.2) hl.1 hl.2

/-! ### What a collector's code guarantees -/

end Collector

namespace Scrape

open Collector

variable {σ : Type}

/-- **The loop keeps nothing from one row to the next**: the label values and the statements read
only variables the row's own `Scan` and assignments set. -/
def Loop.Fresh (l : Loop σ) : Prop :=
  ∀ v v' t, l.labels (l.assign v t) = l.labels (l.assign v' t) ∧
    ∀ ls, runAll ls (l.assign v t) l.body = runAll ls (l.assign v' t) l.body

/-- **What a loop's code guarantees, whatever the rows**, with labels of the kinds `ks`.

* `fresh`: what a row sends is read from variables that row has just set (`Loop.Fresh`);
* `kinds`, `arity`: each label is of a fixed kind (a rendered number or a string) in every row,
  and every descriptor has as many labels as there are;
* `strings`: a string label is a string the `Scan` filled in, or a valid constant;
* `distinct`: the statements send to distinct descriptors;
* `valid`: with valid package constants, every descriptor is valid. -/
structure Loop.WellFormed (k : PackageConsts) (ks : List Bool) (l : Loop σ) : Prop where
  fresh : l.Fresh
  kinds : ∀ v, (l.labels v).map Label.isNumber = ks
  arity : ∀ st ∈ l.body, st.desc.variableLabels.length = ks.length
  strings : ∀ v t s, Label.string s ∈ l.labels (l.assign v t) →
    s ∈ stringsOf l.dests t ∨ Utf8.validString s = true
  distinct : (l.body.map Stmt.desc).Nodup
  valid : k.Valid → ∀ st ∈ l.body, st.desc.err = none

end Scrape

namespace Collector

/-- A collector whose loops all keep to `Loop.WellFormed`, with labels of the same kinds. -/
def WellFormed (k : PackageConsts) (S : Scraper) : Prop :=
  ∃ ks, ∀ l ∈ S.loops, l.WellFormed k ks

end Collector

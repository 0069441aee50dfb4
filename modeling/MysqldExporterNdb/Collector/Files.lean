import MysqldExporterNdb.Collector.Package

/-!
# The collector of `information_schema.files`

`ScrapeFiles` is the one collector of the package that reads nullable columns into `sql.Null*`
destinations: the tablespace and logfile group names, rendered as `""` when NULL, and the free
extents, whose sample is skipped when NULL. Its descriptors are named under the package constants
`namespace` and `informationSchema`.

Its query is modelled as the source has it. The select list lacks a comma between `FILE_NAME` and
`FREE_EXTENTS`, so MySQL reads `FREE_EXTENTS` as an alias of `FILE_NAME`, and the query has nine
columns where the `Scan` has ten destinations.
-/

open Sql Prometheus Scrape

namespace Collector

/-- **The descriptors named `<namespace>_<informationSchema>_<name>` are valid**, for a name and
labels that are. -/
theorem err_filesDesc {k : PackageConsts} (hk : k.Valid) {name help : String}
    {labels : List String} (hname : metricNameChars name = true ∧ name ≠ "")
    (hl : labels.all checkLabelName = true ∧ labels.Nodup) :
    Desc.err ⟨buildFQName k.ns k.informationSchema name, help, labels⟩ = none :=
  Desc.err_eq_none (isValidMetricName_buildFQName hk.1 hk.2.1 hname.1 hname.2) hl.1 hl.2

/-! ### `ScrapeFiles` -/

def infoSchemaFilesQuery : String :=
  "\n\t\tSELECT TABLESPACE_NAME, LOGFILE_GROUP_NAME, ENGINE, FILE_TYPE, FILE_NAME\n\t\t   FREE_EXTENTS, TOTAL_EXTENTS, EXTENT_SIZE, INITIAL_SIZE, EXTRA\n\t\t  FROM information_schema.files\n\t\t  WHERE FILE_NAME != \"\"\n\t\t"

def infoSchemaTableFilesFreeExtentsDesc (k : PackageConsts) : Desc :=
  ⟨buildFQName k.ns k.informationSchema "files_free_extents",
    "The number of extents which have not yet been used by the file",
    ["tablespace", "logfileGroup", "engine", "fileType", "fileName", "extra"]⟩

def infoSchemaTableFilesTotalExtentsDesc (k : PackageConsts) : Desc :=
  ⟨buildFQName k.ns k.informationSchema "files_total_extents",
    "The total number of extents allocated to the file",
    ["tablespace", "logfileGroup", "engine", "fileType", "fileName", "extra"]⟩

def infoSchemaTableFilesExtentSizeDesc (k : PackageConsts) : Desc :=
  ⟨buildFQName k.ns k.informationSchema "files_extent_size",
    "The size of an extent for the file in bytes",
    ["tablespace", "logfileGroup", "engine", "fileType", "fileName", "extra"]⟩

def infoSchemaTableFilesInitialSizeDesc (k : PackageConsts) : Desc :=
  ⟨buildFQName k.ns k.informationSchema "files_initial_size",
    "The size of the file in bytes",
    ["tablespace", "logfileGroup", "engine", "fileType", "fileName", "extra"]⟩

/-- The variables of `ScrapeFiles.Scrape`, at their zero values. -/
structure FilesVars where
  tablespaceName : NullString := ⟨[], false⟩
  logfileGroupName : NullString := ⟨[], false⟩
  engine : GoString := []
  fileType : GoString := []
  fileName : GoString := []
  extra : GoString := []
  freeExtents : NullInt64 := ⟨0, false⟩
  totalExtents : UInt64 := 0
  extentSize : UInt64 := 0
  initialSize : UInt64 := 0

/-- The loop of `ScrapeFiles.Scrape`. -/
def infoSchemaFilesLoop (k : PackageConsts) : Loop FilesVars where
  query := infoSchemaFilesQuery
  dests := [.nullString, .nullString, .string, .string, .string, .nullInt64, .uint64, .uint64, .uint64, .string]
  assign := fun v ⟨tablespaceName, logfileGroupName, engine, fileType, fileName, freeExtents, totalExtents, extentSize, initialSize, extra, ()⟩ ↦
    { v with tablespaceName, logfileGroupName, engine, fileType, fileName, freeExtents, totalExtents, extentSize, initialSize, extra }
  labels v := [.string v.tablespaceName.string, .string v.logfileGroupName.string, .string v.engine, .string v.fileType, .string v.fileName, .string v.extra]
  body :=
    [.sendIf (fun v ↦ v.freeExtents.valid) (infoSchemaTableFilesFreeExtentsDesc k) .gauge fun v ↦
       .ofInt64 v.freeExtents.int64,
     .send (infoSchemaTableFilesTotalExtentsDesc k) .gauge fun v ↦ .ofUInt64 v.totalExtents,
     .send (infoSchemaTableFilesExtentSizeDesc k) .gauge fun v ↦ .ofUInt64 v.extentSize,
     .send (infoSchemaTableFilesInitialSizeDesc k) .gauge fun v ↦ .ofUInt64 v.initialSize]

/-- `ScrapeFiles`. -/
def scrapeFiles (k : PackageConsts) : Scraper where
  name := "info_schema.files"
  Vars := FilesVars
  vars := {}
  loops := [infoSchemaFilesLoop k]

theorem infoSchemaFilesLoop_wellFormed (k : PackageConsts) :
    (infoSchemaFilesLoop k).WellFormed k [false, false, false, false, false, false] where
  fresh _ _ _ := ⟨rfl, fun _ ↦ rfl⟩
  kinds _ := rfl
  arity := by simp [infoSchemaFilesLoop, Stmt.desc, infoSchemaTableFilesFreeExtentsDesc,
    infoSchemaTableFilesTotalExtentsDesc, infoSchemaTableFilesExtentSizeDesc,
    infoSchemaTableFilesInitialSizeDesc]
  strings := by
    rintro v ⟨tablespaceName, logfileGroupName, engine, fileType, fileName, freeExtents, totalExtents, extentSize, initialSize, extra, ⟨⟩⟩ s hs
    simp [infoSchemaFilesLoop] at hs
    rcases hs with rfl | rfl | rfl | rfl | rfl | rfl <;> simp [stringsOf]
  distinct := by simp [infoSchemaFilesLoop, Stmt.desc, infoSchemaTableFilesFreeExtentsDesc,
    infoSchemaTableFilesTotalExtentsDesc, infoSchemaTableFilesExtentSizeDesc,
    infoSchemaTableFilesInitialSizeDesc]
  valid hk := by
    simp (disch := decide) [infoSchemaFilesLoop, Stmt.desc, infoSchemaTableFilesFreeExtentsDesc,
      infoSchemaTableFilesTotalExtentsDesc, infoSchemaTableFilesExtentSizeDesc,
      infoSchemaTableFilesInitialSizeDesc, err_filesDesc hk]

end Collector

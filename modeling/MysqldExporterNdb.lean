import MysqldExporterNdb.Properties.Columns
import MysqldExporterNdb.Properties.Files
import MysqldExporterNdb.Properties.Memory
import MysqldExporterNdb.Properties.Names
import MysqldExporterNdb.Properties.Returns
import MysqldExporterNdb.Properties.Series
import MysqldExporterNdb.Properties.Threadstat
